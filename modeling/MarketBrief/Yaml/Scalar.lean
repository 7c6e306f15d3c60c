import MarketBrief.Yaml.Cursor
import MarketBrief.Json.Quoted

/-!
# Scalars

A scalar is written plain, between quotes, or as a block of lines. Plain and quoted scalars may run over several lines;
then the gaps at line ends are folded.

* `foldGap`: the text that a gap inside a scalar stands for;
* `plainScalar?`, `quotedScalar?`, `blockScalar?`: the scalar at a place, and the place behind it.
-/

namespace MarketBrief.Yaml

/-- The text that a gap stands for: a gap within a line stands for itself, one line break for a space, and several for
all but the first. The breaks that are no line feeds are kept. -/
def foldGap (gap : List Char) : List Char :=
  match gap.filter isBreak with
  | [] => gap
  | ['\n'] => [' ']
  | '\n' :: breaks => breaks
  | breaks => breaks

/-! ### Plain scalars -/

def isFlowMark (c : Char) : Bool := c == ',' || c == '[' || c == ']' || c == '\x7b' || c == '\x7d'

/-- The part of a plain scalar up to the next gap or to the mark that ends it. Inside a flow collection a colon must
not touch one of its marks. -/
def plainPart? (inFlow : Bool) : List Char → Option (List Char)
  | [] => some []
  | c :: cs =>
    if isGapChar c then some []
    else if inFlow && c == ':' && cs.head?.any (fun d => isFlowMark d || d == '?') then none
    else if (c == ':' && atGap cs) || (inFlow && isFlowMark c) then some []
    else (plainPart? inFlow cs).map (c :: ·)

/-- Whether a tab stands left of the column `indent` on a line that begins inside the gap; `column?` is the column on
such a line. -/
def hasIndentingTab (indent : Nat) (column? : Option Nat) : List Char → Bool
  | [] => false
  | c :: cs =>
    if isBreak c then hasIndentingTab indent (some 0) cs
    else (c == '\t' && column?.any (· < indent)) || hasIndentingTab indent (column?.map (· + 1)) cs

/-- A plain scalar: its text, whether a line ended behind it, and the place behind it and the gap after it. -/
structure Plain where
  text : List Char
  endsLine : Bool
  cursor : Cursor

/-- The rest of a plain scalar, of which `text` has been read, and the gap behind that text. -/
def plainFrom? (inFlow : Bool) (indent : Nat) (text gap : List Char) (c : Cursor) : Option Plain := do
  let ended : Plain := ⟨text, gap.any isBreak, c⟩
  if c.atDocumentMark || c.peek? == some '#' then return ended
  let part ← plainPart? inFlow c.rest
  if part = [] then return ended
  let text := text ++ foldGap gap ++ part
  let (gap, d) := (c.skip part.length).span isGapChar
  if hasIndentingTab indent none gap then none
  if gap = [] then return ⟨text, false, d⟩
  if !inFlow && d.column < indent then return ⟨text, gap.any isBreak, d⟩
  if d.rest.length < c.rest.length then plainFrom? inFlow indent text gap d else none
termination_by c.rest.length

/-- The plain scalar at a place. Its further lines begin at the column `indent` or behind it. -/
def plainScalar? (inFlow : Bool) (indent : Nat) (c : Cursor) : Option Plain := plainFrom? inFlow indent [] [] c

/-! ### Quoted scalars -/

/-- The characters that a backslash and one letter name. -/
def escapedChar? : Char → Option Char
  | '0' => some '\x00'
  | 'a' => some '\x07'
  | 'b' => some '\x08'
  | 't' => some '\t'
  | '\t' => some '\t'
  | 'n' => some '\n'
  | 'v' => some '\x0b'
  | 'f' => some '\x0c'
  | 'r' => some '\r'
  | 'e' => some '\x1b'
  | ' ' => some ' '
  | '"' => some '"'
  | '/' => some '/'
  | '\\' => some '\\'
  | 'N' => some '\u0085'
  | '_' => some '\u00a0'
  | 'L' => some '\u2028'
  | 'P' => some '\u2029'
  | _ => none

/-- The number of hexadecimal digits behind a letter that introduces a code point. -/
def codeLength? : Char → Option Nat
  | 'x' => some 2
  | 'u' => some 4
  | 'U' => some 8
  | _ => none

/-- The number that hexadecimal digits write. -/
def hexNumber? (digits : List Char) : Option Nat :=
  digits.foldlM (fun n c => (Json.hexValue? c).map (16 * n + ·)) 0

/-- The character that the text behind a backslash names, and how many characters name it. -/
def escape? : List Char → Option (Char × Nat)
  | [] => none
  | c :: cs =>
    match codeLength? c with
    | none => (escapedChar? c).map (·, 1)
    | some n => do
      guard ((cs.take n).length = n)
      let code ← hexNumber? (cs.take n)
      guard code.isValidChar
      return (Char.ofNat code, n + 1)

def quoteMark (double : Bool) : Char := if double then '"' else '\''

/-- The part of a quoted scalar up to the next gap or quote: its text, whether an escaped line break ends it, and the
place behind it. -/
def quotedPart? (double : Bool) (c : Cursor) : Option (List Char × Bool × Cursor) :=
  match _ : c.rest with
  | [] => some ([], false, c)
  | x :: xs =>
    if !double && x == '\'' && xs.head? == some '\'' then
      (quotedPart? double (c.next.next)).map fun (text, r) => ('\'' :: text, r)
    else if isGapChar x || x == quoteMark double then some ([], false, c)
    else if double && x == '\\' then
      if xs.head?.any isBreak then some ([], true, c.skip 2)
      else match escape? xs with
        | none => none
        | some (y, n) => (quotedPart? double (c.next.skip n)).map fun (text, r) => (y :: text, r)
    else (quotedPart? double c.next).map fun (text, r) => (x :: text, r)
termination_by c.rest.length
decreasing_by
  · have h1 := Cursor.length_next c
    have h2 := Cursor.length_next c.next
    simp_all only [List.length_cons]
    omega
  · have h1 := Cursor.length_next c
    have h2 := Cursor.length_skip_le c.next n
    simp_all only [List.length_cons]
    omega
  · have h1 := Cursor.length_next c
    simp_all only [List.length_cons]
    omega

/-- The rest of a quoted scalar, of which `text` has been read, and the place behind its closing quote. -/
def quotedFrom? (double : Bool) (text : List Char) (c : Cursor) : Option (List Char × Cursor) := do
  if c.atDocumentMark then none
  let (part, brokenLine, d) ← quotedPart? double c
  if d.peek? == some (quoteMark double) then return (text ++ part, d.next)
  let (gap, e) := d.span isGapChar
  let gapText := if brokenLine then gap.filter isBreak else foldGap gap
  if e.rest.length < c.rest.length then quotedFrom? double (text ++ part ++ gapText) e else none
termination_by c.rest.length

/-- The quoted scalar at a place, whose opening quote is ahead. -/
def quotedScalar? (double : Bool) (c : Cursor) : Option (List Char × Cursor) := quotedFrom? double [] c.next

/-! ### Block scalars -/

/-- What becomes of the line breaks at the end of a block. -/
inductive Chomping where
  | strip | clip | keep
  deriving DecidableEq

def chomping? (c : Char) : Option Chomping := if c = '+' then some .keep else if c = '-' then some .strip else none

/-- The indentation that a digit asks for; a zero asks for none and is not allowed. -/
def indentation? (c : Char) : Option Nat := if c.isDigit then some (c.toNat - 48) else none

/-- The header of a block behind its mark: a sign and a digit in either order, each of which may be missing; with the
number of their characters. -/
def blockHeader (cs : List Char) : Chomping × Option Nat × Nat :=
  match cs.head? >>= chomping?, cs.head? >>= indentation? with
  | some chomp, _ =>
    match cs.tail.head? >>= indentation? with
    | some n => (chomp, some n, 2)
    | none => (chomp, none, 1)
  | none, some n =>
    match cs.tail.head? >>= chomping? with
    | some chomp => (chomp, some n, 2)
    | none => (.clip, some n, 1)
  | none, none => (.clip, none, 0)

/-- The line breaks and indentation ahead of a block's next line: the widest indentation met, the breaks, and the place
behind. Without a known indentation all spaces are indentation; a tab must not stand in it. -/
def blockGap? (indent? : Option Nat) (widest : Nat) (breaks : List Char) (c : Cursor) :
    Option (Nat × List Char × Cursor) :=
  let spaces := (c.rest.takeWhile (· == ' ')).length
  let d := c.skip (indent?.elim spaces fun n => min spaces (n - c.column))
  let widest := max widest d.column
  if indent?.all (d.column < ·) && d.peek? == some '\t' then none
  else if d.peek?.any isBreak then
    if d.next.rest.length < c.rest.length then blockGap? indent? widest (breaks ++ d.rest.take 1) d.next else none
  else some (widest, breaks, d)
termination_by c.rest.length

/-- A block that is being read: its text, the break behind the last line, the breaks of empty lines behind that, and
whether the last line begins with a space or a tab. -/
structure Block where
  text : List Char := []
  lineBreak : List Char := []
  emptyLines : List Char := []
  indented : Bool := false

/-- The text of a block with everything that comes before its next line; `indented` tells of that line. A folded block
joins two lines by a space unless empty lines stand between them or one of them is indented. -/
def Block.joined (b : Block) (literal indented : Bool) : List Char :=
  if !literal && b.lineBreak == ['\n'] && !b.indented && !indented then
    b.text ++ (if b.emptyLines = [] then [' '] else b.emptyLines)
  else b.text ++ b.lineBreak ++ b.emptyLines

/-- The rest of a block whose lines begin at the column `indent`. -/
def blockLines? (literal : Bool) (indent : Nat) (b : Block) (c : Cursor) : Option (Block × Cursor) := do
  if c.column ≠ indent ∨ c.rest = [] then return (b, c)
  let indented := c.peek?.any isSpacing
  let (line, d) := c.span (!isBreak ·)
  let (_, emptyLines, e) ← blockGap? (some indent) 0 [] d.next
  let b : Block :=
    { text := b.joined literal indented ++ line, lineBreak := d.rest.take 1, emptyLines, indented }
  if e.rest.length < c.rest.length then blockLines? literal indent b e else none
termination_by c.rest.length

/-- The block scalar at a place, whose mark is ahead; `parent?` is the indentation of the collection around it. -/
def blockScalar? (literal : Bool) (parent? : Option Nat) (c : Cursor) : Option (List Char × Cursor) := do
  let (chomp, increment?, size) := blockHeader c.next.rest
  guard (increment? ≠ some 0)
  let (_, c) := (c.next.skip size).span isSpacing
  let c := if c.peek? == some '#' then (c.span (!isBreak ·)).2 else c
  guard (atLineEnd c.rest)
  let indent? := increment?.map (parent?.getD 0 + ·)
  let (widest, emptyLines, c) ← blockGap? indent? 0 [] c.next
  let indent := indent?.getD (max widest (max 1 (parent?.elim 0 (· + 1))))
  let (b, c) ← blockLines? literal indent { emptyLines } c
  let lineBreak := if chomp = .strip then [] else b.lineBreak
  let emptyLines := if chomp = .keep then b.emptyLines else []
  return (b.text ++ lineBreak ++ emptyLines, c)

end MarketBrief.Yaml
