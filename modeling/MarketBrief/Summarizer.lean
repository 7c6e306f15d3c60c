import MarketBrief.Extraction.Selection

/-!
# Summarizers

A summarizer turns documents into a text. One extracts sentences; another hands on a text from elsewhere.

* `Summarizer.extractive`, `Summarizer.external`.
-/

namespace MarketBrief

open Extraction

/-- A named way to summarize documents. -/
structure Summarizer where
  name : String
  summarize : List Document → Except ExtractionError String

namespace Summarizer

/-- The summarizer that extracts sentences. It never fails. -/
def extractive (e : Extractor) : Summarizer := ⟨"local-extractor", fun documents => .ok (e.summary documents)⟩

/-- The summarizer that hands on a text, whatever the documents. -/
def external (text : String) : Summarizer := ⟨"external", fun _ => .ok text⟩

end Summarizer

end MarketBrief
