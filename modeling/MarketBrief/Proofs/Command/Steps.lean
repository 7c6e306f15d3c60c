import MarketBrief.Command.Run
import MarketBrief.Proofs.Except

/-!
# The steps of a command

Every command reads what it needs, one input behind the other, makes its text of it, and writes that text at the end.

* `SummarySource.summary`, `SummarySource.after`: the summary from a source, and what can be read behind it;
* `Surroundings.sources`, `Settings.summarizer`: documents that may be left out, and the summarizer of a report;
* `Command.print`: the text of a command, without the writing;
* `printing`: an action that writes a text once it is there, and nothing before; `printing_bind`: what is read first may
  be read by the action itself;
* `Command.execute_eq_printing`: a command is such an action.
-/

namespace MarketBrief

open Category Extraction

/-! ### Reading -/

def SummarySource.summary : SummarySource → Surroundings → Except Failure String
  | .text summary, _ => .ok summary
  | .file path, around => around.text path

/-- What can be read behind a summary. -/
def SummarySource.after : SummarySource → Surroundings → Surroundings
  | .text _, around => around
  | .file path, around => around.after path

/-- The documents of a file, or none if there is no file. -/
def Surroundings.sources (around : Surroundings) : Option String → Except Failure (List Document)
  | none => .ok []
  | some path => around.documents path false

/-- The summarizer of a report on the documents of a file: their own, or one that hands on a text read behind them. -/
def Settings.summarizer (s : Settings) (around : Surroundings) (path : String) :
    Option String → Except Failure Summarizer
  | none => s.extractor >>= fun x => .ok (.extractive x)
  | some file => (around.after path).text file >>= fun text => .ok (.external (Text.trimmed text))

/-- No summarizer of a report fails, so there always is a report. -/
theorem exists_generate_eq_ok {settings : Settings} {around : Surroundings} {path : String} {summary? : Option String}
    {summarizer : Summarizer} (h : settings.summarizer around path summary? = .ok summarizer) (s : Scorer)
    (topic : String) (documents : List Document) : ∃ r, Generator.generate ⟨summarizer, s⟩ topic documents = .ok r := by
  cases summary? with
  | none =>
    obtain ⟨x, -, h⟩ := bind_eq_ok_iff.1 h
    cases h
    exact ⟨_, rfl⟩
  | some file =>
    obtain ⟨text, -, h⟩ := bind_eq_ok_iff.1 h
    cases h
    exact ⟨_, rfl⟩

/-! ### Texts -/

/-- The text that a command writes, or what it fails for. -/
def Command.print (settings : Settings) (around : Surroundings) : Command → Except Failure String
  | .summarize path clean => do
    let documents ← around.documents path clean
    let x ← settings.extractor
    .ok (x.summary documents)
  | .rank source path? => do
    let summary ← source.summary around
    let documents ← (source.after around).sources path?
    let s ← settings.scorer (source.after around)
    .ok (s.thesis summary documents).toJson.pretty
  | .report path topic summary? format clean => do
    let documents ← around.documents path clean
    let summarizer ← settings.summarizer around path summary?
    let s ← settings.scorer around
    let r ← (Generator.generate ⟨summarizer, s⟩ topic documents).mapError .noReport
    .ok (r.written format)
  | .categories group? => do
    let t ← (settings.table around.read?).mapError .noTable
    .ok (t.listing (group?.elim Group.all ([·]))).pretty

/-! ### Writing -/

/-- Writes a text as a line if it is there, and else fails with nothing written. -/
def printing (x : Except Failure String) : Action Unit := do printLine (← x)

theorem printing_ok (text : String) : printing (.ok text) = printLine text := rfl

/-- What a text depends on may be read by the action itself, before it writes. -/
theorem printing_bind {α : Type} (x : Except Failure α) (f : α → Except Failure String) :
    printing (x >>= f) = (liftM x : Action α) >>= fun a => printing (f a) := by
  cases x with
  | error fault => rfl
  | ok a => rfl

/-- What such an action leaves behind, whatever has been written before. -/
theorem run_printing (x : Except Failure String) (written : List String) :
    (printing x).run.run written =
      match x with
      | .ok text => (.ok (), written ++ [text ++ "\n"])
      | .error f => (.error f, written) := by
  cases x with
  | error f => rfl
  | ok text => rfl

/-- A command writes its text in one piece, after everything that can fail. -/
theorem Command.execute_eq_printing (settings : Settings) (around : Surroundings) (c : Command) :
    c.execute settings around = printing (c.print settings around) := by
  cases c with
  | summarize path clean => simp only [Command.execute, Command.print, printing_bind, printing_ok]
  | rank source path? =>
    simp only [Command.execute, Command.print, printing_bind, printing_ok]
    cases source with
    | text summary => cases path? <;> rfl
    | file file => cases path? <;> cases h : around.text file <;> simp only [SummarySource.summary, h] <;> rfl
  | report path topic summary? format clean =>
    simp only [Command.execute, Command.print, printing_bind, printing_ok]
    cases summary? with
    | none => cases h : settings.extractor <;> simp only [Settings.summarizer, h] <;> rfl
    | some file => cases h : (around.after path).text file <;> simp only [Settings.summarizer, h] <;> rfl
  | categories group? => simp only [Command.execute, Command.print, printing_bind, printing_ok]

end MarketBrief
