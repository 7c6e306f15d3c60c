import MarketBrief.Extraction.Candidate
import MarketBrief.Overlap

/-!
# Selection of the summary

The candidates are taken by descending score. One that overlaps too much with a chosen one is passed over and takes no
place; the choice ends when the summary is full.

* `ranked`: the candidates by score, and in reading order where scores are equal;
* `choose`: the choice along a ranking, built from `consider`;
* `Extractor.select`: the chosen sentences in reading order;
* `Extractor.summary`: their texts, joined by spaces.
-/

namespace MarketBrief.Extraction

/-- The candidates by descending score; equal scores keep the reading order. -/
def ranked (candidates : List Candidate) : List Candidate :=
  candidates.mergeSort fun a b => b.score ≤ a.score

/-- Whether a candidate overlaps too much with one of the chosen. -/
def isDuplicate (o : Options) (chosen : List Candidate) (c : Candidate) : Bool :=
  chosen.any fun a => o.overlapThreshold.lt (overlapRatio c.text a.text)

/-- The chosen after one more candidate has been considered. -/
def consider (o : Options) (chosen : List Candidate) (c : Candidate) : List Candidate :=
  if o.maxSentences ≤ chosen.length then chosen
  else if isDuplicate o chosen c then chosen
  else chosen ++ [c]

/-- The choice along a ranking, in the order of the ranking. -/
def choose (o : Options) (ranking : List Candidate) : List Candidate := ranking.foldl (consider o) []

/-- The sentences of the summary, in reading order. -/
def Extractor.select (e : Extractor) (documents : List Document) : List Candidate :=
  (choose e.options (ranked (e.candidates documents))).mergeSort fun a b => a.position ≤ b.position

/-- The summary: the selected sentences, joined by single spaces. -/
def Extractor.summary (e : Extractor) (documents : List Document) : String :=
  Text.joined " " ((e.select documents).map Candidate.text)

/-- The summary with the built-in vocabulary and default filters. -/
def summarize (documents : List Document) (maxSentences : Nat) (overlapThreshold : Number.Binary64) :
    Except ExtractionError String := do
  let extractor ← Extractor.make { maxSentences, overlapThreshold }
  return extractor.summary documents

end MarketBrief.Extraction
