import MarketBrief.Settings.Basic
import MarketBrief.Unicode.Alphabetic

/-!
# Environment files

A file may set variables that the environment does not set. Each assignment stands on a line; a quote that is open at
a line's end takes in the next line. The first fault ends the reading, and what has been set before it stays. No
variable can hold a NUL character.

* `joinLines`: the assignments of some lines;
* `readValue?`: a value with its quotes, escapes and substitutions;
* `readLine?`: an assignment;
* `written?`: the value that the environment has for a name in a value;
* `Environment.load`: the environment after a file.
-/

namespace MarketBrief

namespace EnvFile

open Unicode

/-! ### Lines -/

/-- What is open at a place of a line. -/
inductive LineState where
  | plain | space | escape | weak | weakEscape | strong | strongEscape
  deriving DecidableEq

/-- The state behind a character that stands behind plain text or a space. -/
def openState (c : Char) : LineState :=
  if c = '\\' then .escape else if c = '"' then .weak else if c = '\'' then .strong else .plain

/-- The state behind one more character. -/
def LineState.next : LineState → Char → LineState
  | .plain, c => if isBlank c && c != '\n' && c != '\r' then .space else openState c
  | .space, c => openState c
  | .escape, _ => .plain
  | .weak, c => if c = '\\' then .weakEscape else if c = '"' then .plain else .weak
  | .weakEscape, _ => .weak
  | .strong, c => if c = '\\' then .strongEscape else if c = '\'' then .plain else .strong
  | .strongEscape, _ => .strong

/-- The line up to a comment, if one begins behind a space, and the state at its end otherwise. -/
def endOfLine (s : LineState) : List Char → List Char ⊕ LineState
  | [] => .inr s
  | c :: cs =>
    if s = .space ∧ c = '#' then .inl []
    else match endOfLine (s.next c) cs with
      | .inl before => .inl (c :: before)
      | .inr s => .inr s

/-- The text without the line break at its end. -/
def dropLineEnd (cs : List Char) : List Char :=
  match cs.reverse with
  | '\n' :: '\r' :: rest => rest.reverse
  | '\n' :: rest => rest.reverse
  | _ => cs

/-- The lines that hold assignments; `opened` has been read and is not at its end, with the state `s`. A line that is no
text, and an end of the file inside quotes, are faults. -/
def joinLines (opened : List Char) (s : LineState) : List (Option (List Char)) → List (Option (List Char))
  | [] => if s = .plain then [] else [none]
  | none :: _ => [none]
  | some line :: lines =>
    if (Text.trimStart (opened ++ line)).head? = some '#' then joinLines [] .plain lines
    else match endOfLine s line with
      | .inl before => some (opened ++ before) :: joinLines [] .plain lines
      | .inr .plain => some (dropLineEnd (opened ++ line)) :: joinLines [] .plain lines
      | .inr s => joinLines (opened ++ line) s lines

/-! ### Values -/

/-- What the next character of a value belongs to. -/
inductive Mode where
  /-- Plain text. -/
  | plain
  /-- Text between double quotes. -/
  | weak
  /-- Text between single quotes. -/
  | strong
  /-- An escape, inside double quotes or not. -/
  | escape (inWeak : Bool)
  /-- A name behind a dollar sign. -/
  | name (inWeak : Bool) (name : List Char)
  /-- A name between braces behind a dollar sign. -/
  | braced (inWeak : Bool) (name : List Char)
  /-- Nothing but a comment may come. -/
  | ended

/-- The mode outside of escapes and names. -/
def textMode (inWeak : Bool) : Mode := if inWeak then .weak else .plain

/-- A value that is being read: its text so far, reversed, and the mode. -/
structure Reading where
  text : List Char := []
  mode : Mode := .plain

def Reading.add (r : Reading) (text : List Char) (mode : Mode) : Reading :=
  { text := text.reverse ++ r.text, mode }

/-- The character that a backslash and another one stand for. -/
def escaped? (c : Char) : Option Char :=
  if c = 'n' then some '\n' else if "\\'\"$ ".toList.contains c then some c else none

/-- The effect of one more character; `value` gives the values of names. -/
def Reading.step? (value : List Char → List Char) (r : Reading) (c : Char) : Option Reading :=
  match r.mode with
  | .ended => if c = ' ' ∨ c = '\t' then some r else none
  | .escape inWeak => (escaped? c).map fun e => r.add [e] (textMode inWeak)
  | .strong => some (if c = '\'' then { r with mode := .plain } else r.add [c] .strong)
  | .name inWeak name =>
    if isAlphanumeric c then some { r with mode := .name inWeak (name ++ [c]) }
    else if c = '\x7b' ∧ name = [] then some { r with mode := .braced inWeak [] }
    else if c = '$' then some (r.add (value name) (.name inWeak []))
    else some (r.add (value name ++ [c]) (textMode inWeak))
  | .braced inWeak name =>
    if c = '\x7d' then some (r.add (value name) (textMode inWeak))
    else some { r with mode := .braced inWeak (name ++ [c]) }
  | .weak =>
    some (if c = '$' then { r with mode := .name true [] }
      else if c = '"' then { r with mode := .plain }
      else if c = '\\' then { r with mode := .escape true }
      else r.add [c] .weak)
  | .plain =>
    some (if c = '$' then { r with mode := .name false [] }
      else if c = '\'' then { r with mode := .strong }
      else if c = '"' then { r with mode := .weak }
      else if c = '\\' then { r with mode := .escape false }
      else if c = ' ' ∨ c = '\t' then { r with mode := .ended }
      else r.add [c] .plain)

/-- The text of a reading at the end of the value, where no quote and no brace may be open. -/
def Reading.finish? (value : List Char → List Char) (r : Reading) : Option (List Char) :=
  match r.mode with
  | .strong | .weak | .braced .. | .escape true | .name true _ => none
  | .name false name => some (r.add (value name) .plain).text.reverse
  | .plain | .ended | .escape false => some r.text.reverse

/-- The rest of a value. A comment may follow a value that has ended. -/
def readValueFrom? (value : List Char → List Char) (r : Reading) : List Char → Option (List Char)
  | [] => r.finish? value
  | c :: cs =>
    match r.mode, c with
    | .ended, '#' => r.finish? value
    | _, _ => (r.step? value c).bind fun r => readValueFrom? value r cs

def readValue? (value : List Char → List Char) (cs : List Char) : Option (List Char) := readValueFrom? value {} cs

/-! ### Assignments -/

/-- The name at a text's beginning, and the text behind it and its blanks. -/
def readName? (cs : List Char) : Option (List Char × List Char) :=
  if cs.head?.any fun c => c.isAlpha || c == '_' then
    let isNameChar (c : Char) : Bool := c.isAlphanum || c == '_' || c == '.'
    some (cs.takeWhile isNameChar, Text.trimStart (cs.dropWhile isNameChar))
  else none

/-- The text behind an equals sign. -/
def afterEquals? : List Char → Option (List Char)
  | '=' :: cs => some cs
  | _ => none

/-- The name that a line assigns to, and the text behind the equals sign. The word `export` before the name is passed
over, unless it is the name. -/
def readTarget? (cs : List Char) : Option (List Char × List Char) := do
  let (name, rest) ← readName? cs
  match afterEquals? rest with
  | some text => return (name, text)
  | none =>
    guard (name = "export".toList)
    let (name, rest) ← readName? rest
    return (name, ← afterEquals? rest)

/-- The assignment of a line: nothing if the line is empty or a comment, and no result if it is faulty. -/
def readLine? (value : List Char → List Char) (line : List Char) : Option (Option (String × String)) := do
  let cs := Text.trim line
  if cs = [] ∨ cs.head? = some '#' then return none
  let (name, text) ← readTarget? cs
  let text := Text.trimStart text
  if text = [] ∨ text.head? = some '#' then return some (String.ofList name, "")
  return some (String.ofList name, String.ofList (← readValue? value text))

/-! ### Files -/

/-- The lines of a file with their line breaks, each as text if it is text. -/
def physicalLines (bytes : List UInt8) : List (Option (List Char)) :=
  match bytes with
  | [] => []
  | b :: bs =>
    let line := (b :: bs).takeWhile (· ≠ 10)
    let rest := (b :: bs).dropWhile (· ≠ 10)
    let text? := String.fromUTF8? ⟨(line ++ rest.take 1).toArray⟩
    text?.map String.toList :: physicalLines (rest.drop 1)
termination_by bytes.length
decreasing_by
  have h := Text.length_dropWhile_le (fun x : UInt8 => decide (x ≠ 10)) bs
  by_cases hb : b = 10
  · simp [hb]
  · simp only [List.dropWhile_cons, List.length_drop, List.length_cons]
    split
    · simp_all
      omega
    · simp_all

def dropByteOrderMark : List UInt8 → List UInt8
  | 0xEF :: 0xBB :: 0xBF :: bytes => bytes
  | bytes => bytes

/-- The bytes of a variable in its written form, `name=value`. -/
def entryBytes (entry : String × ByteArray) : List UInt8 := (entry.1 ++ "=").toUTF8.toList ++ entry.2.toList

/-- The value that the environment has for a name in a value: what follows the name and an equals sign in the written
form of the first variable that begins so. A name with an equals sign in it thus takes in the beginning of a value. -/
def written? (e : Environment) (name : String) : Option String := do
  let bytes ← e.findSome? fun entry => (name ++ "=").toUTF8.toList.isPrefixOf? (entryBytes entry)
  String.fromUTF8? ⟨bytes.toArray⟩

/-- The value that a name stands for: that of the environment, or else the one assigned last in the file. -/
def valueOf (e : Environment) (assigned : List (String × String)) (name : List Char) : List Char :=
  (((written? e (String.ofList name)).or (assigned.lookup (String.ofList name))).getD "").toList

/-- A variable that is given a value which no variable can hold. -/
structure Unsettable where
  name : String
  deriving DecidableEq

def Unsettable.message (e : Unsettable) : String := "the variable " ++ e.name ++ " cannot hold a NUL character"

/-- The environment with a variable that it does not set. -/
def assign (e : Environment) (name value : String) : Except Unsettable Environment :=
  if (e.get? name).isSome then .ok e
  else if value.toList.contains '\x00' then .error ⟨name⟩
  else .ok ((name, value.toUTF8) :: e)

/-- The environment after some lines, the first fault being the end. -/
def assignLines (e : Environment) (assigned : List (String × String)) :
    List (Option (List Char)) → Except Unsettable Environment
  | [] => .ok e
  | none :: _ => .ok e
  | some line :: lines =>
    match readLine? (valueOf e assigned) line with
    | none => .ok e
    | some none => assignLines e assigned lines
    | some (some (name, value)) => do assignLines (← assign e name value) ((name, value) :: assigned) lines

end EnvFile

/-- The environment after a file, which sets no variable that the environment sets. -/
def Environment.load (e : Environment) (file : ByteArray) : Except EnvFile.Unsettable Environment :=
  EnvFile.assignLines e [] (EnvFile.joinLines [] .plain
    (EnvFile.physicalLines (EnvFile.dropByteOrderMark file.toList)))

end MarketBrief
