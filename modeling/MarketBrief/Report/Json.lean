import MarketBrief.Report.Basic
import MarketBrief.Thesis.Json

/-!
# Reports in JSON

* `Report.toJson`: a report as a record, with its thesis as a record in it.
-/

namespace MarketBrief.Report

open Json

def toJson (r : Report) : Value :=
  .record [("topic", .ofText r.topic), ("summarizer", .ofText r.summarizer), ("summary", .ofText r.summary),
    ("thesis", r.thesis.toJson)]

end MarketBrief.Report
