import MarketBrief.Category.Json
import MarketBrief.Command.Options
import MarketBrief.Settings.Basic

/-!
# Commands and their arguments

* `Overrides`: options that take the place of settings; they may stand before and behind the name of a command;
* `Command`: what is to be done;
* `Invocation.read`: the meaning of arguments.
-/

namespace MarketBrief

open Category Number

/-- Settings that arguments give. -/
structure Overrides where
  categoriesPath? : Option String := none
  maxSentences? : Option Nat := none
  overlapThreshold? : Option Binary64 := none
  minWords? : Option Nat := none
  topN? : Option Nat := none
  deriving DecidableEq

/-- Where a summary comes from. -/
inductive SummarySource where
  | text (summary : String)
  | file (path : String)
  deriving DecidableEq, Repr

/-- How a report is written. -/
inductive ReportFormat where
  | json
  | markdown
  deriving DecidableEq, Repr

/-- What is to be done. Each path may be a dash, which stands for the standard input. -/
inductive Command where
  /-- Print the summary of documents, which may be cleaned before. -/
  | summarize (documents : String) (clean : Bool)
  /-- Print the thesis of a summary with the sources of documents. -/
  | rank (summary : SummarySource) (documents? : Option String)
  /-- Print the report on a topic from documents, with a summary from elsewhere or their own. -/
  | report (documents : String) (topic : String) (summary? : Option String) (format : ReportFormat) (clean : Bool)
  /-- Print the table of categories, or a group of it. -/
  | categories (group? : Option Group)
  deriving DecidableEq

/-- A command with the settings that are given beside it. -/
structure Invocation where
  overrides : Overrides
  command : Command
  deriving DecidableEq

/-! ### Settings among the arguments -/

namespace Overrides

def optionNames : List String := ["categories", "max-sentences", "overlap-threshold", "min-words", "top-n"]

def ofGiven (given : Command.Given) : Except Command.UsageError Overrides := do
  return {
    categoriesPath? := ← given.path? "categories"
    maxSentences? := ← given.natural? "max-sentences"
    overlapThreshold? := ← given.decimal? "overlap-threshold"
    minWords? := ← given.natural? "min-words"
    topN? := ← given.natural? "top-n" }

/-- The settings of `o`, and those of `p` where `o` has none. -/
def orElse (o p : Overrides) : Overrides :=
  { categoriesPath? := o.categoriesPath?.or p.categoriesPath?
    maxSentences? := o.maxSentences?.or p.maxSentences?
    overlapThreshold? := o.overlapThreshold?.or p.overlapThreshold?
    minWords? := o.minWords?.or p.minWords?
    topN? := o.topN?.or p.topN? }

/-- Settings with those of the arguments in place of their own. -/
def apply (o : Overrides) (s : Settings) : Except Settings.OutOfRange Settings := do
  let overlapThreshold ← match o.overlapThreshold? with
    | none => pure s.overlapThreshold
    | some x => Settings.checkThreshold x
  return { s with
    categoriesPath? := o.categoriesPath?.or s.categoriesPath?
    maxSentences := o.maxSentences?.getD s.maxSentences
    overlapThreshold
    minSentenceWords := o.minWords?.getD s.minSentenceWords
    topN := o.topN?.getD s.topN }

end Overrides

/-! ### Commands -/

namespace Command

def formatOfName? (name : String) : Option ReportFormat :=
  if name = "json" then some .json else if name = "markdown" then some .markdown else none

def accepted? (name : String) : Option Accepted :=
  match name with
  | "summarize" => some ⟨["docs"], ["clean"]⟩
  | "structure" => some ⟨["summary", "summary-file", "docs"], []⟩
  | "thesis" => some ⟨["docs", "topic", "summary-file", "format"], ["clean"]⟩
  | "categories" => some ⟨["group"], []⟩
  | _ => none

/-- The summary that one of two options gives. -/
def summaryOfGiven (given : Given) : Except UsageError SummarySource := do
  match given.lookup "summary", ← given.path? "summary-file" with
  | some summary, none => return .text summary
  | none, some path => return .file path
  | some _, some _ => throw (.excluded "summary-file")
  | none, none => throw (.missingOption "summary")

def ofGiven (name : String) (given : Given) : Except UsageError Command := do
  match name with
  | "summarize" => return .summarize (← required "docs" (← given.path? "docs")) (given.has "clean")
  | "structure" => return .rank (← summaryOfGiven given) (← given.path? "docs")
  | "thesis" =>
    let documents ← required "docs" (← given.path? "docs")
    let topic := (given.lookup "topic").getD "fintech"
    let summary? ← given.path? "summary-file"
    let format := (← given.value? "format" formatOfName?).getD .json
    return .report documents topic summary? format (given.has "clean")
  | "categories" => return .categories (← given.value? "group" Group.ofName?)
  | _ => throw (.unexpected name)

end Command

/-! ### Invocations -/

namespace Invocation

open Command

/-- The meaning of arguments: options that give settings, the name of a command, and its options among more of those.
Of two values for a setting the one behind the name counts. Two dashes may end the arguments. -/
def read (arguments : List String) : Except UsageError Invocation := do
  let (before, rest) ← Given.read ⟨Overrides.optionNames, []⟩ [] arguments
  let name :: rest := rest | throw .missingCommand
  let some accepted := accepted? name | throw (.unexpected name)
  let (behind, rest) ← Given.read { accepted with options := accepted.options ++ Overrides.optionNames } [] rest
  match rest with
  | [] | ["--"] => pure ()
  | argument :: _ => throw (.unexpected argument)
  let overrides := (← Overrides.ofGiven behind).orElse (← Overrides.ofGiven before)
  return { overrides, command := ← Command.ofGiven name behind }

end Invocation

end MarketBrief
