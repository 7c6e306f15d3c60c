import MarketBrief.Text.Phrase
import MarketBrief.Unicode.Settled

/-!
# Lines and blocks that carry no article content

* `isBoilerplate`: contact lines, bylines, newsletter and social prompts, event promotions;
* `withoutAuthorNotes`: the lines of a text without each header "About the author" and the paragraph under it.
-/

namespace MarketBrief.Article

open Text Unicode

/-! ### Single lines -/

/-- An address line: `email:` or `e-mail:` and anything behind it. -/
def isMailLine (line : List Char) : Bool :=
  (afterPhrase? "email:".toList line).isSome || (afterPhrase? "e-mail:".toList line).isSome

/-- A speaker count: `hear from`, decimal digits, a plus sign and anything behind it. -/
def isSpeakerLine (line : List Char) : Bool :=
  match afterPhrase? "hear from ".toList line with
  | some (c :: cs) => isSettledDigit c && (cs.dropWhile isSettledDigit).head? == some '+'
  | _ => false

/-- A byline: `by` and two words of word characters with single spaces between, and nothing else. -/
def isByline (line : List Char) : Bool :=
  match afterPhrase? "by ".toList line with
  | none => false
  | some name =>
    match name.dropWhile isWordChar with
    | ' ' :: surname => (name.head?.any isWordChar) && surname ≠ [] && surname.all isWordChar
    | _ => false

/-- A newsletter prompt: the word `subscribe` and behind it the word `newsletter`. -/
def isNewsletterLine (line : List Char) : Bool :=
  match afterWord? "subscribe".toList false line with
  | some rest => (afterWord? "newsletter".toList true rest).isSome
  | none => false

/-- An invitation to a website: `visit` at the beginning and the word `website` behind it. -/
def isVisitLine (line : List Char) : Bool :=
  match afterWholePhrase? "visit".toList line with
  | some rest => (afterWord? "website".toList true rest).isSome
  | none => false

/-- Whether a line, without blanks at its ends, is boilerplate as a whole. -/
def isBoilerplate (line : List Char) : Bool :=
  (afterWholePhrase? "you can contact".toList line).isSome
    || isMailLine line
    || (afterWholePhrase? "discover your next".toList line).isSome
    || isSpeakerLine line
    || isByline line
    || (afterWholePhrase? "follow us on".toList line).isSome
    || isNewsletterLine line
    || isVisitLine line

/-! ### Author notes -/

def isSpaceOrTab (c : Char) : Bool := c == ' ' || c == '\t'

def opensAuthorNote (line : List Char) : Bool :=
  (afterWholePhrase? "about the author".toList (line.dropWhile isSpaceOrTab)).isSome

/-- Whether a line under a header belongs to the note: behind its spaces and tabs there is a character that is no
blank. -/
def continuesAuthorNote (line : List Char) : Bool := (line.dropWhile isSpaceOrTab).head?.any (!isBlank ·)

def withoutAuthorNotes : List (List Char) → List (List Char)
  | [] => []
  | line :: lines =>
    if opensAuthorNote line then withoutAuthorNotes (lines.dropWhile continuesAuthorNote)
    else line :: withoutAuthorNotes lines
termination_by lines => lines.length
decreasing_by
  all_goals simp only [List.length_cons]
  · exact Nat.lt_succ_of_le (length_dropWhile_le ..)
  · exact Nat.lt_succ_self _

end MarketBrief.Article
