/-!
# Places in YAML text

Layout carries meaning in YAML, so a reader knows the line and column of its place.

* `isBreak`, `isSpacing`, `isGapChar`: the characters between tokens;
* `Cursor`: a place, with the text behind it;
* `Cursor.next`, `Cursor.skip`, `Cursor.skipMark`, `Cursor.span`: moving on;
* `Cursor.ofText?`: the beginning of a text, if YAML allows its characters.
-/

namespace MarketBrief.Yaml

/-! ### Characters -/

/-- A line break, once the breaks of a text have been made uniform. -/
def isBreak (c : Char) : Bool := c == '\n' || c == '\u2028' || c == '\u2029'

def isSpacing (c : Char) : Bool := c == ' ' || c == '\t'

/-- A character that may stand in the gap between tokens. -/
def isGapChar (c : Char) : Bool := isSpacing c || isBreak c

/-- A letter, a digit, a low line or a hyphen, as names have them. -/
def isNameChar (c : Char) : Bool := c.isAlphanum || c == '_' || c == '-'

/-- Whether the text is over or a gap begins it. -/
def atGap (cs : List Char) : Bool := cs.head?.all isGapChar

/-- Whether the text is over or a line break begins it. -/
def atLineEnd (cs : List Char) : Bool := cs.head?.all isBreak

/-- A character that YAML text may hold: any but the controls other than tabs and line breaks, and the two last points
of the first plane. -/
def isAllowed (c : Char) : Bool :=
  let n := c.toNat
  n == 9 || n == 10 || n == 13 || (32 ≤ n && n ≤ 126) || n == 0x85 || (0xA0 ≤ n && n ≤ 0xFFFD) || 0x10000 ≤ n

/-- The text with a line feed for each carriage return, each pair of both, and each next-line control. -/
def uniformBreaks : List Char → List Char
  | '\r' :: '\n' :: cs => '\n' :: uniformBreaks cs
  | c :: cs => (if c = '\r' ∨ c = '\u0085' then '\n' else c) :: uniformBreaks cs
  | [] => []

/-! ### Places -/

/-- The text behind a place, the number of bytes before it in UTF-8, its line, and its column in characters. -/
structure Cursor where
  rest : List Char
  index : Nat := 0
  line : Nat := 0
  column : Nat := 0

namespace Cursor

/-- The place behind one more character. -/
def next (c : Cursor) : Cursor :=
  match c.rest with
  | [] => c
  | x :: xs =>
    if isBreak x then { rest := xs, index := c.index + x.utf8Size, line := c.line + 1, column := 0 }
    else { rest := xs, index := c.index + x.utf8Size, line := c.line, column := c.column + 1 }

/-- The place behind `n` more characters. -/
def skip (c : Cursor) : Nat → Cursor
  | 0 => c
  | n + 1 => c.next.skip n

/-- The place behind a byte order mark on a line's beginning. The mark takes up a column and means nothing. -/
def skipMark (c : Cursor) : Cursor := if c.column = 0 ∧ c.rest.head? = some '\ufeff' then c.next else c

/-- The longest text ahead whose characters all satisfy `p`, and the place behind it. -/
def span (c : Cursor) (p : Char → Bool) : List Char × Cursor :=
  let taken := c.rest.takeWhile p
  (taken, c.skip taken.length)

def peek? (c : Cursor) : Option Char := c.rest.head?

/-- Whether one of the marks `---` and `...` that separate documents stands on the line's beginning ahead. -/
def atDocumentMark (c : Cursor) : Bool :=
  c.column == 0 && (c.rest.take 3 == ['-', '-', '-'] || c.rest.take 3 == ['.', '.', '.']) && atGap (c.rest.drop 3)

/-- The beginning of a text, if all its characters are allowed. -/
def ofText? (text : List Char) : Option Cursor :=
  if text.all isAllowed then some { rest := uniformBreaks text } else none

theorem length_next (c : Cursor) : c.next.rest.length = c.rest.length - 1 := by
  unfold next
  split
  · next h => simp [h]
  · next x xs h => split <;> simp [h]

theorem length_skip_le (c : Cursor) (n : Nat) : (c.skip n).rest.length ≤ c.rest.length := by
  induction n generalizing c with
  | zero => exact Nat.le_refl _
  | succ n ih =>
    have h1 := ih c.next
    have h2 := length_next c
    simp only [skip]
    omega

end Cursor

end MarketBrief.Yaml
