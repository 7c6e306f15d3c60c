/-!
# Theses

* `Thesis`: the labels that a summary was ranked under, group by group, and the sources behind it.
-/

namespace MarketBrief

/-- The best labels of each group, best first, and the sources in the order of their first mention. -/
structure Thesis where
  keyThemes : List String
  risks : List String
  investmentSignals : List String
  sources : List String
  deriving DecidableEq, Repr

/-- Whether no label of any group was found. -/
def Thesis.hasNoCategories (t : Thesis) : Bool :=
  t.keyThemes.isEmpty && t.risks.isEmpty && t.investmentSignals.isEmpty

end MarketBrief
