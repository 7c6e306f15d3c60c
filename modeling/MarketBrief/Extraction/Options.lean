import MarketBrief.Number.Decimal
import MarketBrief.Number.Shortest
import MarketBrief.Lexicon.Fintech

/-!
# Options of the extraction

* `Options`: the limits and filters, with their defaults;
* `Extractor`: options and a vocabulary; its overlap threshold is known to lie between zero and one;
* `Extractor.make`: the extractor, unless the threshold is out of range.
-/

namespace MarketBrief.Extraction

open Number

/-- The default of the overlap threshold, seven tenths. -/
def defaultThreshold : Binary64 := .ofDecimal false 7 (-1)

/-- The limits and filters of an extraction. -/
structure Options where
  /-- The most sentences that a summary has. -/
  maxSentences : Nat := 7
  /-- A sentence that overlaps with a chosen one by more than this is a duplicate. -/
  overlapThreshold : Binary64 := defaultThreshold
  /-- The fewest words that a sentence needs. -/
  minWords : Nat := 4
  /-- Leave out sentences with promotional phrases. -/
  dropPromotional : Bool := true
  /-- Leave out sentences with words glued by a stop. -/
  dropGlued : Bool := true
  /-- Leave out sentences without a terminal mark. -/
  requireTerminal : Bool := false
  /-- Leave out sentences that begin with a small letter, unless all do. -/
  dropFragments : Bool := true
  deriving DecidableEq

/-- Why there is no summary. -/
inductive ExtractionError where
  | thresholdOutOfRange (value : Binary64)
  deriving DecidableEq

def ExtractionError.message : ExtractionError → String
  | .thresholdOutOfRange x => "overlap threshold must be within [0, 1], got " ++ x.text

/-- Options with a threshold between zero and one, and a vocabulary. -/
structure Extractor where
  options : Options
  lexicon : Lexicon
  threshold_isFraction : options.overlapThreshold.isFraction = true

namespace Extractor

/-- The extractor with these options, unless their threshold is out of range. -/
def make (options : Options) (lexicon : Lexicon := Lexicon.fintech) : Except ExtractionError Extractor :=
  if h : options.overlapThreshold.isFraction = true then .ok ⟨options, lexicon, h⟩
  else .error (.thresholdOutOfRange options.overlapThreshold)

end Extractor

end MarketBrief.Extraction
