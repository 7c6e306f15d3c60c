import MarketBrief.Report.Basic

/-!
# Reports as Markdown

* `itemSection`: a heading with a list, or a note that the list is empty;
* `Report.markdown`: the topic, a section for each group and for the sources, and the summary.
-/

namespace MarketBrief.Report

/-- A heading of the second level with a list of items under it. -/
def itemSection (heading : String) (items : List String) : String :=
  "\n## " ++ heading ++ "\n\n" ++
    if items = [] then "None identified\n" else String.join (items.map fun item => "- " ++ item ++ "\n")

/-- The summary without blanks at its ends, or a note that there is none. -/
def summaryText (summary : String) : String :=
  if Text.trimmed summary = "" then "No summary available." else Text.trimmed summary

def markdown (r : Report) : String :=
  "# Investment Thesis: " ++ r.topic ++ "\n"
    ++ itemSection "Key Themes" r.thesis.keyThemes
    ++ itemSection "Risks" r.thesis.risks
    ++ itemSection "Investment Signals" r.thesis.investmentSignals
    ++ itemSection "Sources" r.thesis.sources
    ++ "\n## Analyst Summary\n\n" ++ summaryText r.summary ++ "\n"
    ++ "\n_Summarized by `" ++ r.summarizer ++ "`._\n"

end MarketBrief.Report
