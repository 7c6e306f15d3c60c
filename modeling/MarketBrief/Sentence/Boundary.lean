import MarketBrief.Text.Basic
import MarketBrief.Unicode.Alphabetic

/-!
# Where a sentence may end

A sentence ends at a run of closing marks, the first of them `.`, `!` or `?`, if a sentence may begin after it. A lone
dot ends none when the word before it is a known abbreviation or a single capital letter that stands for a name.

* `isTerminal`, `isClosing`, `isOpening`: the marks;
* `maySplitBefore`: whether what follows a run lets a sentence end;
* `endsAbbreviated`: whether a text, read backwards, ends in an abbreviation or an initial;
* `isBoundary`: both together.
-/

namespace MarketBrief.Sentence

open Unicode

/-! ### Marks -/

/-- The marks that end a sentence. -/
def isTerminal (c : Char) : Bool := c == '.' || c == '!' || c == '?'

/-- The quotes and brackets that close after a sentence's end. -/
def isClosing (c : Char) : Bool :=
  c == '"' || c == '\'' || c == ')' || c == ']' || c == '\u201d' || c == '\u2019'

/-- The quotes and brackets that open before a sentence's beginning. -/
def isOpening (c : Char) : Bool :=
  c == '"' || c == '\'' || c == '(' || c == '[' || c == '\u201c' || c == '\u2018'

/-- A mark that belongs to the run at a sentence's end. -/
def isRunMark (c : Char) : Bool := isTerminal c || isClosing c

/-- A character with which a sentence plausibly begins. -/
def opensSentence (c : Char) : Bool := isUppercase c || c.isDigit || isOpening c

/-- Whether a sentence may end before this text: it is over, or a blank begins it and the first character behind the
blanks, if any, opens a sentence. -/
def maySplitBefore (after : List Char) : Bool :=
  after.head?.all isBlank && (after.dropWhile isBlank).head?.all opensSentence

/-! ### Abbreviations and initials -/

/-- Abbreviations that a dot follows without ending the sentence, in lowercase and without that dot. -/
def abbreviations : List (List Char) :=
  ["inc", "corp", "ltd", "co", "llc", "plc", "bros", "mr", "mrs", "ms", "dr", "prof", "sr", "jr", "st", "vs", "etc",
   "e.g", "i.e", "u.s", "u.k", "u.n", "e.u", "approx", "dept", "fig", "gov", "sen", "rep", "jan", "feb", "mar", "apr",
   "jun", "jul", "aug", "sep", "sept", "oct", "nov", "dec"].map String.toList

/-- Words that take the single capital after them as a label: `Series A`, `Class B`. -/
def labelWords : List (List Char) :=
  ["series", "class", "plan", "tier", "round", "phase", "type"].map String.toList

/-- Whether the character belongs to an abbreviated word: alphanumeric, or a dot inside it. -/
def isAbbreviationChar (c : Char) : Bool := isAlphanumeric c || c == '.'

/-- Whether the last word of a text, which is reversed, takes a capital letter as its label. -/
def endsInLabelWord (before : List Char) : Bool :=
  labelWords.contains (lower ((before.dropWhile isBlank).takeWhile (!isBlank ·)).reverse)

/-- Whether a text, which is reversed, ends in an abbreviation or in a capital letter that stands alone as an
initial. -/
def endsAbbreviated (before : List Char) : Bool :=
  match before.takeWhile isAbbreviationChar with
  | [] => false
  | c :: cs =>
    if cs = [] && isUppercase c then !endsInLabelWord (before.dropWhile isAbbreviationChar)
    else abbreviations.contains (lower (c :: cs).reverse)

/-! ### Boundaries -/

/-- Whether a run is a dot and holds no other mark that ends a sentence. -/
def isLoneDot (run : List Char) : Bool := run.head? == some '.' && !run.tail.any isTerminal

/-- Whether a sentence ends with the run between `before`, which is reversed, and `after`. -/
def isBoundary (before run after : List Char) : Bool :=
  !(isLoneDot run && endsAbbreviated before) && maySplitBefore after

end MarketBrief.Sentence
