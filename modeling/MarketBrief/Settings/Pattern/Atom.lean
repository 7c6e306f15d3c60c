import MarketBrief.Json.Quoted
import MarketBrief.Unicode.Blank

/-!
# Atoms of patterns

Patterns are regular expressions. An atom stands for one character, for one of a class of characters, or for an edge
in the text. Flags decide whether blanks between atoms count, and whether classes and edges are those of all scripts or
of ASCII alone; a pattern of ASCII alone must not match a part of a longer character.

* `Mode`: the flags that matter to the form of a pattern;
* `skipSpace`: the text behind blanks and comments;
* `Atom`, `escape?`: what a backslash and the text behind it stand for.
-/

namespace MarketBrief.Settings.Pattern

open Unicode

/-! ### Flags -/

/-- The flags in force at a place. -/
structure Mode where
  /-- Whether blanks and comments between atoms are passed over. -/
  spaced : Bool := false
  /-- Whether classes and edges are those of all scripts. -/
  allScripts : Bool := true

/-- The text behind blanks and comments; inside a comment if `comment` says so. A comment ends with its line. -/
def dropSpace (comment : Bool) : List Char → List Char
  | [] => []
  | c :: cs =>
    if comment then dropSpace (c != '\n') cs
    else if isBlank c then dropSpace false cs
    else if c = '#' then dropSpace true cs
    else c :: cs

/-- The text behind the blanks and comments that are passed over. -/
def skipSpace (m : Mode) (cs : List Char) : List Char := if m.spaced then dropSpace false cs else cs

/-! ### Atoms -/

/-- An atom. -/
inductive Atom where
  /-- A character; `code` tells that it is written by a code of two digits. -/
  | literal (c : Char) (code : Bool)
  /-- A class that is known by a letter; `ascii` tells that it holds nothing but ASCII once ASCII alone counts. -/
  | letterClass (ascii : Bool)
  /-- A class of characters by their general category. -/
  | category
  /-- The beginning or the end of the text. -/
  | textEdge
  /-- An edge of a word. -/
  | wordEdge
  deriving DecidableEq

/-- Whether an atom may stand in a pattern. Where ASCII alone counts, it must match whole characters. -/
def Atom.isSound (m : Mode) : Atom → Bool
  | .literal c code => m.allScripts || !code || c.toNat < 128
  | .letterClass ascii => m.allScripts || ascii
  | .category => m.allScripts
  | .textEdge | .wordEdge => true

/-- The number that `n` hexadecimal digits write, and the text behind them. -/
def hexCode? (m : Mode) : (n code : Nat) → List Char → Option (Nat × List Char)
  | 0, code, cs => some (code, cs)
  | _ + 1, _, [] => none
  | n + 1, code, c :: cs => do hexCode? m n (16 * code + (← Json.hexValue? c)) (skipSpace m cs)

/-- The character that a code of `n` digits names, and the text behind it. -/
def codeAtom? (m : Mode) (n : Nat) (cs : List Char) : Option (Atom × List Char) := do
  let (code, rest) ← hexCode? m n 0 (skipSpace m cs)
  guard code.isValidChar
  return (.literal (Char.ofNat code) (n == 2), rest)

/-- The letters that name general categories. -/
def categoryLetters : List Char := "CLMNPSZ".toList

/-- The category that one letter of either case names, and the text behind it. -/
def categoryAtom? (m : Mode) (cs : List Char) : Option (Atom × List Char) :=
  match skipSpace m cs with
  | c :: rest => if categoryLetters.contains c.toUpper then some (.category, skipSpace m rest) else none
  | [] => none

/-- The control character that a backslash and one letter name. -/
def controlOfLetter? : Char → Option Char
  | 'a' => some '\x07'
  | 't' => some '\t'
  | 'n' => some '\n'
  | 'v' => some '\x0b'
  | 'f' => some '\x0c'
  | 'r' => some '\r'
  | _ => none

/-- What a backslash and the character behind it stand for, if no further text belongs to them. Any mark of ASCII stands
for itself, except the two that are edges. -/
def simpleEscape? (c : Char) : Option Atom :=
  if "bB<>".toList.contains c then some .wordEdge
  else if c = 'A' ∨ c = 'z' then some .textEdge
  else if "dsw".toList.contains c then some (.letterClass true)
  else if "DSW".toList.contains c then some (.letterClass false)
  else if c.toNat < 128 && !c.isAlphanum then some (.literal c false)
  else (controlOfLetter? c).map (.literal · false)

/-- The atom that the text behind a backslash writes, and the text behind it. -/
def escape? (m : Mode) : List Char → Option (Atom × List Char)
  | [] => none
  | c :: cs =>
    if c = 'x' then codeAtom? m 2 cs
    else if c = 'u' then codeAtom? m 4 cs
    else if c = 'U' then codeAtom? m 8 cs
    else if c = 'p' ∨ c = 'P' then categoryAtom? m cs
    else (simpleEscape? c).map (·, cs)

end MarketBrief.Settings.Pattern
