import MarketBrief.Thesis.Basic
import MarketBrief.Category.Fintech
import MarketBrief.Category.Scoring
import MarketBrief.Document.Basic

/-!
# Ranking a summary

* `Scorer`: a table, a strategy, and how many labels of a group a thesis keeps;
* `Scorer.rank`: the categories of a group that a summary hits, best first;
* `Scorer.thesis`: the best labels of each group with the sources of the documents.
-/

namespace MarketBrief

open Category Text

/-- A label with its hits. -/
structure Ranked where
  label : String
  hits : Nat
  deriving DecidableEq, Repr

/-- A table, a strategy, and how many labels of a group are kept. -/
structure Scorer where
  table : Table := .fintech
  strategy : Strategy := .occurrences
  topN : Nat := 3

/-- The categories that a lowercase text hits, by descending hits; equal hits keep the order of the table. -/
def rankEntries (s : Strategy) (text : String) (entries : List Entry) : List Ranked :=
  ((entries.map fun e => ⟨e.label, s.hits text e.keywords⟩).filter (0 < ·.hits) : List Ranked).mergeSort
    fun a b => b.hits ≤ a.hits

namespace Scorer

/-- The categories of a group that a summary hits, best first. -/
def rank (s : Scorer) (summary : String) (group : Group) : List Ranked :=
  rankEntries s.strategy (lowered summary) (s.table.entries group)

/-- The labels that a thesis keeps of a group. -/
def topLabels (s : Scorer) (summary : String) (group : Group) : List String :=
  ((s.rank summary group).take s.topN).map Ranked.label

/-- The thesis of a summary, with the sources of the documents it stands for. -/
def thesis (s : Scorer) (summary : String) (documents : List Document) : Thesis :=
  { keyThemes := s.topLabels summary .themes
    risks := s.topLabels summary .risks
    investmentSignals := s.topLabels summary .signals
    sources := collectSources documents }

end Scorer

end MarketBrief
