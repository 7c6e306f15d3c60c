import MarketBrief.Category.Source
import MarketBrief.Command.Arguments
import MarketBrief.Document.Clean
import MarketBrief.Document.Json
import MarketBrief.Folder
import MarketBrief.Json.Printer
import MarketBrief.Report.Json
import MarketBrief.Report.Markdown
import MarketBrief.Settings.EnvFile
import MarketBrief.Settings.LogFilter

/-!
# Running a command

A run reads files, the standard input and the environment, and writes to the standard output. It ends at the first
failure, in the order: settings, settings among the arguments, log filter, command; what it has written by then stays
written.

* `Surroundings`: what a run can read; `Failure`: why it fails;
* `Overrides.settings`: the settings of a run, and its log filter;
* `Action`, `printLine`: steps that may write and may fail;
* `Command.execute`, `Invocation.execute`: what is done, step by step;
* `Outcome`, `run`: what a run with some arguments has written, and how it ends.
-/

namespace MarketBrief

open Category Extraction Json

/-- What a run can read. -/
structure Surroundings where
  environment : Environment := []
  /-- The contents of the environment file, if there is one. -/
  envFile? : Option ByteArray := none
  /-- The contents of the file with a path, if it can be read. -/
  read? : String → Option ByteArray
  /-- The standard input. -/
  input : ByteArray := .empty

/-- What a run can read that is started in a folder. The environment file lies in it. -/
def Surroundings.ofFolder (f : Folder) (environment : Environment) (input : ByteArray) : Surroundings :=
  { environment, envFile? := f.read? ".env", read? := f.read?, input }

/-- Why a run fails. -/
inductive Failure where
  | unreadableFile (path : String)
  | unreadableInput
  | badDocuments (path : String)
  | badVariable (e : Settings.InvalidVariable)
  | badThreshold (e : Settings.OutOfRange)
  | badFilter (fault : Settings.LogFilter.Fault)
  | unsettable (e : EnvFile.Unsettable)
  | noTable (e : TableError)
  | noExtractor (e : ExtractionError)
  | noReport (e : ReportError)
  deriving DecidableEq

def Failure.message : Failure → String
  | .unreadableFile path => "failed to read " ++ path
  | .unreadableInput => "failed to read stdin"
  | .badDocuments path => "invalid documents file " ++ path
  | .badVariable e => e.message
  | .badThreshold e => "invalid --overlap-threshold: " ++ e.message
  | .badFilter fault => fault.message
  | .unsettable e => e.message
  | .noTable _ => "failed to load category table"
  | .noExtractor e => e.message
  | .noReport e => e.message

/-- Whether a failure breaks off the run, which else ends in an orderly way. -/
def Failure.aborts : Failure → Bool
  | .unsettable _ | .badFilter .splitCharacter => true
  | _ => false

/-! ### Reading -/

namespace Surroundings

def loaded (s : Surroundings) : Except Failure Environment :=
  match s.envFile? with
  | none => .ok s.environment
  | some file => (s.environment.load file).mapError .unsettable

/-- The text of a file, or of the standard input for a dash. -/
def text (s : Surroundings) (path : String) : Except Failure String :=
  if path = "-" then
    match String.fromUTF8? s.input with
    | some text => .ok text
    | none => .error .unreadableInput
  else
    match s.read? path >>= String.fromUTF8? with
    | some text => .ok text
    | none => .error (.unreadableFile path)

/-- What can be read once a text has been read: the standard input can be read only once. -/
def after (s : Surroundings) (path : String) : Surroundings :=
  if path = "-" then { s with input := .empty } else s

/-- The documents of a file, cleaned if so wished. -/
def documents (s : Surroundings) (path : String) (clean : Bool) : Except Failure (List Document) := do
  match Document.readList? (← s.text path) with
  | none => throw (.badDocuments path)
  | some documents => return if clean then documents.map Document.cleaned else documents

end Surroundings

/-- The settings of a run: those of its environment, with the overrides in place of their own. The log filter must be in
order as well, be it that of the environment or of the settings. -/
def Overrides.settings (o : Overrides) (around : Surroundings) : Except Failure Settings := do
  let environment ← around.loaded
  let given ← (Settings.read environment).mapError .badVariable
  let settings ← (o.apply given).mapError .badThreshold
  (Settings.LogFilter.checkIn environment settings.logLevel).mapError .badFilter
  return settings

def Settings.table (s : Settings) (read? : String → Option ByteArray) : Except TableError Table :=
  match s.categoriesPath? with
  | none => .ok .fintech
  | some path => Table.load (read? path >>= String.fromUTF8?)

def Settings.extraction (s : Settings) : Options :=
  { maxSentences := s.maxSentences, overlapThreshold := s.overlapThreshold, minWords := s.minSentenceWords }

/-! ### Commands -/

def Settings.scorer (s : Settings) (around : Surroundings) : Except Failure Scorer := do
  return { table := ← (s.table around.read?).mapError .noTable, topN := s.topN }

def Settings.extractor (s : Settings) : Except Failure Extractor := (Extractor.make s.extraction).mapError .noExtractor

def Report.written (r : Report) : ReportFormat → String
  | .json => r.toJson.pretty
  | .markdown => r.markdown

/-- A step of a run. It may write texts to the standard output, and then gives a value or fails. What it has written by
then stays written. -/
abbrev Action (α : Type) : Type := ExceptT Failure (StateM (List String)) α

def printLine (text : String) : Action Unit := modify (· ++ [text ++ "\n"])

def Command.execute (settings : Settings) (around : Surroundings) : Command → Action Unit
  | .summarize path clean => do
    let documents ← around.documents path clean
    let extractor ← settings.extractor
    printLine (extractor.summary documents)
  | .rank source path? => do
    let (summary, around) ← match source with
      | .text summary => pure (summary, around)
      | .file path => do pure (← around.text path, around.after path)
    let documents ← match path? with
      | none => pure []
      | some path => around.documents path false
    let scorer ← settings.scorer around
    printLine (scorer.thesis summary documents).toJson.pretty
  | .report path topic summary? format clean => do
    let documents ← around.documents path clean
    let summarizer ← match summary? with
      | none => do pure (Summarizer.extractive (← settings.extractor))
      | some summary => do pure (Summarizer.external (Text.trimmed (← (around.after path).text summary)))
    let generator : Generator := { summarizer, scorer := ← settings.scorer around }
    let report ← show Except Failure Report from (generator.generate topic documents).mapError .noReport
    printLine (report.written format)
  | .categories group? => do
    let table ← show Except Failure Table from (settings.table around.read?).mapError .noTable
    printLine (table.listing (group?.elim Group.all ([·]))).pretty

def Invocation.execute (around : Surroundings) (i : Invocation) : Action Unit := do
  let settings ← i.overrides.settings around
  i.command.execute settings around

/-! ### Outcomes -/

/-- How a run ends. -/
inductive Ending where
  | finished
  | failed (f : Failure)
  | aborted (f : Failure)
  | misused (e : Command.UsageError)
  deriving DecidableEq

/-- The texts that a run has written to the standard output, and how it ends. -/
structure Outcome where
  written : List String
  ending : Ending
  deriving DecidableEq

namespace Outcome

/-- A run that prints a text as a line. -/
@[match_pattern] def printed (text : String) : Outcome := ⟨[text ++ "\n"], .finished⟩

/-- A run that fails before anything is written. -/
@[match_pattern] def failed (f : Failure) : Outcome := ⟨[], .failed f⟩

/-- A run that is broken off before anything is written. -/
@[match_pattern] def aborted (f : Failure) : Outcome := ⟨[], .aborted f⟩

/-- A run whose arguments are not understood. -/
@[match_pattern] def misused (e : Command.UsageError) : Outcome := ⟨[], .misused e⟩

def output (o : Outcome) : String := String.join o.written

@[simp] theorem output_printed (text : String) : (printed text).output = text ++ "\n" := by
  simp [output, printed, String.join]

end Outcome

def Ending.message? : Ending → Option String
  | .finished => none
  | .failed f | .aborted f => some f.message
  | .misused e => some e.message

def Ending.exitCode : Ending → Nat
  | .finished => 0
  | .failed _ => 1
  | .aborted _ => 101
  | .misused _ => 2

def Outcome.message? (o : Outcome) : Option String := o.ending.message?

def Outcome.exitCode (o : Outcome) : Nat := o.ending.exitCode

/-- The outcome of an action that starts with nothing written. -/
def Action.outcome (x : Action Unit) : Outcome :=
  match x.run.run [] with
  | (.ok (), written) => ⟨written, .finished⟩
  | (.error f, written) => ⟨written, if f.aborts then .aborted f else .failed f⟩

def run (around : Surroundings) (arguments : List String) : Outcome :=
  match Invocation.read arguments with
  | .error e => .misused e
  | .ok i => (i.execute around).outcome

end MarketBrief
