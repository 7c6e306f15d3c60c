import MarketBrief.Thesis.Basic
import MarketBrief.Json.Record

/-!
# Theses in JSON

* `Thesis.toJson`, `Thesis.ofJson?`: a thesis as a record of four lists.
-/

namespace MarketBrief.Thesis

open Json

def toJson (t : Thesis) : Value :=
  .record [("key_themes", .ofTexts t.keyThemes), ("risks", .ofTexts t.risks),
    ("investment_signals", .ofTexts t.investmentSignals), ("sources", .ofTexts t.sources)]

/-- The thesis that a record writes. All four lists must be there. -/
def ofJson? (v : Value) : Option Thesis := do
  match ← v.fields? ["key_themes", "risks", "investment_signals", "sources"] with
  | [some keyThemes, some risks, some investmentSignals, some sources] =>
    return { keyThemes := ← keyThemes.texts?, risks := ← risks.texts?
             investmentSignals := ← investmentSignals.texts?, sources := ← sources.texts? }
  | _ => none

end MarketBrief.Thesis
