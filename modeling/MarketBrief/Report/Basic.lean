import MarketBrief.Summarizer
import MarketBrief.Thesis.Ranking

/-!
# Reports

* `Report`: everything that one run produces on a topic;
* `Generator.generate`: summarize first, then rank the summary.
-/

namespace MarketBrief

/-- A topic with its summary, the name of the summarizer, and the thesis. -/
structure Report where
  topic : String
  summarizer : String
  summary : String
  thesis : Thesis
  deriving DecidableEq, Repr

/-- Why there is no report. -/
inductive ReportError where
  | summarizing (cause : Extraction.ExtractionError)
  deriving DecidableEq

def ReportError.message : ReportError → String
  | .summarizing cause => "summarization failed: " ++ cause.message

/-- A summarizer and a scorer. -/
structure Generator where
  summarizer : Summarizer
  scorer : Scorer

def Generator.generate (g : Generator) (topic : String) (documents : List Document) : Except ReportError Report := do
  let summary ← (g.summarizer.summarize documents).mapError .summarizing
  return { topic, summarizer := g.summarizer.name, summary, thesis := g.scorer.thesis summary documents }

end MarketBrief
