import MarketBrief.Category.Keyword

/-!
# Scoring strategies

* `Strategy`: how the keywords of a category become a number of hits;
* `Strategy.hits`: that number for a lowercase text.
-/

namespace MarketBrief.Category

/-- What counts as a hit. -/
inductive Strategy where
  /-- Every occurrence of every keyword. -/
  | occurrences
  /-- Every keyword that occurs. -/
  | distinct
  deriving DecidableEq, Repr

namespace Strategy

def name : Strategy → String
  | .occurrences => "occurrence-count"
  | .distinct => "distinct-keyword-count"

def hits (s : Strategy) (text : String) (keywords : List String) : Nat :=
  match s with
  | .occurrences => (keywords.map (countOccurrences text)).foldr (· + ·) 0
  | .distinct => keywords.countP (0 < countOccurrences text ·)

end Strategy

end MarketBrief.Category
