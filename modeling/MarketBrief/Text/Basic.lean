import MarketBrief.Unicode.Blank
import MarketBrief.Unicode.Lowercase

/-!
# Texts as lists of characters

A text is worked on as the list of its characters; a `String` is only how it is stored. Nothing here counts bytes, so
no cut can fall inside a character.

* `trim`: a text without its blanks at both ends;
* `words`: the blank-free pieces between blanks;
* `lines`: the pieces between line feeds;
* `trimmed`, `lowered`, `isBlankText`: the same on stored texts.
-/

namespace MarketBrief.Text

open Unicode

theorem length_dropWhile_le {α : Type} (p : α → Bool) (l : List α) : (l.dropWhile p).length ≤ l.length :=
  (List.dropWhile_sublist p).length_le

/-! ### Blanks at the ends -/

def trimStart (cs : List Char) : List Char := cs.dropWhile isBlank

/-- The text up to its last character that is not blank. -/
def trimEnd (cs : List Char) : List Char := (cs.reverse.dropWhile isBlank).reverse

/-- The text without blanks at its ends. -/
def trim (cs : List Char) : List Char := trimEnd (trimStart cs)

/-! ### Words and lines -/

/-- The words of the text that follows `word`, the reversed beginning of a word. -/
def wordsAfter (word : List Char) : List Char → List (List Char)
  | [] => if word = [] then [] else [word.reverse]
  | c :: cs =>
    if isBlank c then
      if word = [] then wordsAfter [] cs else word.reverse :: wordsAfter [] cs
    else wordsAfter (c :: word) cs

/-- The longest pieces of a text that hold no blank. -/
def words (cs : List Char) : List (List Char) := wordsAfter [] cs

/-- The pieces of a text between line feeds; there is always one more piece than line feeds. -/
def lines (cs : List Char) : List (List Char) := cs.splitOn '\n'

/-! ### Stored texts -/

/-- A stored text without blanks at its ends. -/
def trimmed (s : String) : String := String.ofList (trim s.toList)

/-- The lowercase form of a stored text. -/
def lowered (s : String) : String := String.ofList (lower s.toList)

/-- Whether a stored text holds nothing but blanks. -/
def isBlankText (s : String) : Bool := s.toList.all isBlank

def joined (separator : String) (texts : List String) : String :=
  String.ofList (separator.toList.intercalate (texts.map String.toList))

@[simp] theorem toList_trimmed (s : String) : (trimmed s).toList = trim s.toList := String.toList_ofList

@[simp] theorem toList_lowered (s : String) : (lowered s).toList = lower s.toList := String.toList_ofList

@[simp] theorem toList_joined (separator : String) (texts : List String) :
    (joined separator texts).toList = separator.toList.intercalate (texts.map String.toList) :=
  String.toList_ofList

end MarketBrief.Text
