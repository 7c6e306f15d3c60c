import MarketBrief.Article.Promotion
import MarketBrief.Article.Boilerplate

/-!
# Cleaning an article

* `collapseSpaces`: runs of spaces and tabs become single spaces;
* `cleanLine?`: what remains of one line, if anything;
* `clean`: the article without author notes, boilerplate lines, promotional phrases and empty lines.
-/

namespace MarketBrief.Article

open Text

/-- The text with one space for each run of spaces and tabs; `inRun` says whether the text before ends in such a
run. -/
def collapseSpacesAfter (inRun : Bool) : List Char → List Char
  | [] => []
  | c :: cs =>
    if isSpaceOrTab c then
      if inRun then collapseSpacesAfter true cs else ' ' :: collapseSpacesAfter true cs
    else c :: collapseSpacesAfter false cs

/-- The text with one space for each run of spaces and tabs. -/
def collapseSpaces (cs : List Char) : List Char := collapseSpacesAfter false cs

/-- What remains of a line: nothing of a boilerplate line, else the line without promotional phrases and superfluous
spaces, unless that is empty. The line is judged before phrases are taken out of it. -/
def cleanLine? (line : List Char) : Option (List Char) :=
  if isBoilerplate (trim line) then none
  else Option.guard (· ≠ []) (trim (collapseSpaces (blankPromotions (trim line))))

def cleanLines (cs : List Char) : List (List Char) := (withoutAuthorNotes (lines cs)).filterMap cleanLine?

def clean (text : String) : String := String.ofList (['\n'].intercalate (cleanLines text.toList))

end MarketBrief.Article
