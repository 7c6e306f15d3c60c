import MarketBrief.Proofs.Category.Table
import MarketBrief.Proofs.Command.Steps

/-!
# What a run prints

A run prints a text if all its steps succeed, and the text is then what the steps make of what can be read.

* `Invocation.print`: the text of an invocation; `run_eq_printed`, `run_eq_of_error`: the run that writes it, or fails;
* `run_cases`: a run writes one text, or nothing and fails; `exitCode_eq_zero_iff`, `written_of_exitCode_ne`,
  `output_of_exitCode_ne`: the two cases by the exit code;
* `run_eq_printed_iff`: the steps before the command;
* `documents_eq_ok_iff`, `scorer_eq_ok_iff`, `extractor_eq_ok_iff`: what a command works with;
* `built_of_settings`: a table that settings ask for can be had;
* `summarize_eq_ok_iff`, `rank_file_eq_ok_iff`, `report_eq_ok_iff`, `report_file_eq_ok_iff`: what commands print.
-/

namespace MarketBrief

open Category Extraction

/-! ### Outcomes -/

@[simp] theorem Outcome.printed_inj {text other : String} :
    Outcome.printed text = .printed other ↔ text = other := by simp [Outcome.printed]

/-- The text that an invocation writes, or what it fails for. -/
def Invocation.print (around : Surroundings) (i : Invocation) : Except Failure String := do
  let settings ← i.overrides.settings around
  i.command.print settings around

section Runs

variable {around : Surroundings} {arguments : List String} {i : Invocation} {f : Failure} {text : String}

theorem Invocation.execute_eq_printing (around : Surroundings) (i : Invocation) :
    i.execute around = printing (i.print around) := by
  simp only [Invocation.execute, Invocation.print, printing_bind, Command.execute_eq_printing]

theorem run_eq_misused {e : Command.UsageError} (hread : Invocation.read arguments = .error e) :
    run around arguments = .misused e := by simp only [run, hread]

theorem run_eq_printed (hread : Invocation.read arguments = .ok i) (hprint : i.print around = .ok text) :
    run around arguments = .printed text := by
  simp only [run, hread, Invocation.execute_eq_printing, hprint]
  rfl

theorem run_eq_of_error (hread : Invocation.read arguments = .ok i) (hprint : i.print around = .error f) :
    run around arguments = if f.aborts then .aborted f else .failed f := by
  simp only [run, hread, Invocation.execute_eq_printing, hprint, Action.outcome, run_printing]
  split <;> rfl

/-- A run writes a single text as a line, or nothing. -/
theorem run_cases (around : Surroundings) (arguments : List String) :
    (∃ text, run around arguments = .printed text) ∨
      (run around arguments).written = [] ∧ (run around arguments).exitCode ≠ 0 := by
  cases hread : Invocation.read arguments with
  | error e =>
    rw [run_eq_misused hread]
    exact .inr ⟨rfl, nofun⟩
  | ok i =>
    cases hprint : i.print around with
    | ok text => exact .inl ⟨text, run_eq_printed hread hprint⟩
    | error f =>
      rw [run_eq_of_error hread hprint]
      exact .inr (by split <;> exact ⟨rfl, nofun⟩)

theorem exitCode_eq_zero_iff :
    (run around arguments).exitCode = 0 ↔ ∃ text, run around arguments = .printed text := by
  constructor
  · exact fun hzero => (run_cases around arguments).resolve_right fun h => h.2 hzero
  · rintro ⟨text, hrun⟩
    rw [hrun]
    rfl

theorem written_of_exitCode_ne (h : (run around arguments).exitCode ≠ 0) : (run around arguments).written = [] := by
  obtain ⟨text, hrun⟩ | ⟨hwritten, -⟩ := run_cases around arguments
  · exact absurd (exitCode_eq_zero_iff.2 ⟨text, hrun⟩) h
  · exact hwritten

theorem output_of_exitCode_ne (h : (run around arguments).exitCode ≠ 0) : (run around arguments).output = "" := by
  rw [Outcome.output, written_of_exitCode_ne h]
  rfl

theorem run_eq_printed_iff :
    run around arguments = .printed text ↔ ∃ i settings, Invocation.read arguments = .ok i ∧
      i.overrides.settings around = .ok settings ∧ i.command.print settings around = .ok text := by
  constructor
  · intro h
    cases hread : Invocation.read arguments with
    | error e => exact nomatch (run_eq_misused hread).symm.trans h
    | ok i =>
      cases hprint : i.print around with
      | ok printed =>
        cases Outcome.printed_inj.1 ((run_eq_printed hread hprint).symm.trans h)
        obtain ⟨settings, hsettings, hprint⟩ := bind_eq_ok_iff.1 hprint
        exact ⟨i, settings, rfl, hsettings, hprint⟩
      | error f =>
        rw [run_eq_of_error hread hprint] at h
        split at h <;> exact nomatch h
  · rintro ⟨i, settings, hread, hsettings, hprint⟩
    exact run_eq_printed hread (bind_eq_ok_iff.2 ⟨settings, hsettings, hprint⟩)

end Runs

/-- What is left of a run once its arguments and settings are known. -/
theorem run_eq_printed_iff_of_read {around : Surroundings} {arguments : List String} {i : Invocation}
    {settings : Settings} (hread : Invocation.read arguments = .ok i)
    (hsettings : i.overrides.settings around = .ok settings) {text : String} :
    run around arguments = .printed text ↔ i.command.print settings around = .ok text := by
  rw [run_eq_printed_iff, hread]
  constructor
  · rintro ⟨i', settings', hi, hs, hprint⟩
    cases hi
    cases hsettings.symm.trans hs
    exact hprint
  · exact fun hprint => ⟨i, settings, rfl, hsettings, hprint⟩

/-! ### What a command reads -/

section Reading

variable {around : Surroundings} {settings : Settings} {path : String}

theorem documents_eq_ok_iff {clean : Bool} {documents : List Document} :
    around.documents path clean = .ok documents ↔ ∃ text found, around.text path = .ok text ∧
      Document.readList? text = some found ∧ documents = if clean then found.map Document.cleaned else found := by
  unfold Surroundings.documents
  rw [bind_eq_ok_iff]
  constructor
  · rintro ⟨text, htext, h⟩
    split at h
    · exact nomatch h
    · next found hfound =>
      cases h
      exact ⟨text, found, htext, hfound, rfl⟩
  · rintro ⟨text, found, htext, hfound, rfl⟩
    exact ⟨text, htext, by rw [hfound]; rfl⟩

theorem scorer_eq_ok_iff {s : Scorer} :
    settings.scorer around = .ok s ↔
      ∃ t, settings.table around.read? = .ok t ∧ { table := t, topN := settings.topN } = s := by
  simp only [Settings.scorer, bind_eq_ok_iff, mapError_eq_ok_iff, pure_eq_ok_iff]

/-- An extractor under settings has their limits, the default filters and the built-in vocabulary. -/
theorem extractor_eq_ok_iff {e : Extractor} :
    settings.extractor = .ok e ↔ e.options = settings.extraction ∧ e.lexicon = .fintech := by
  rw [Settings.extractor, mapError_eq_ok_iff, Extractor.make]
  constructor
  · intro h
    split at h
    · cases h
      exact ⟨rfl, rfl⟩
    · exact nomatch h
  · obtain ⟨options, lexicon, hfraction⟩ := e
    rintro ⟨rfl, rfl⟩
    exact dif_pos hfraction

theorem built_of_settings {read? : String → Option ByteArray} {t : Table} (h : settings.table read? = .ok t) :
    t.Built := by
  unfold Settings.table at h
  split at h
  · cases h
    exact .fintech
  · exact built_of_load h

end Reading

/-! ### What a command prints -/

section Printing

variable {settings : Settings} {around : Surroundings} {path topic text file : String} {clean : Bool}
  {format : ReportFormat}

theorem summarize_eq_ok_iff :
    (Command.summarize path clean).print settings around = .ok text ↔ ∃ documents e,
      around.documents path clean = .ok documents ∧ settings.extractor = .ok e ∧ e.summary documents = text := by
  simp only [Command.print, bind_eq_ok_iff, Except.ok.injEq, exists_and_left]

/-- The summary is read before the documents. -/
theorem rank_file_eq_ok_iff :
    (Command.rank (.file file) (some path)).print settings around = .ok text ↔ ∃ summary documents s,
      around.text file = .ok summary ∧ (around.after file).documents path false = .ok documents ∧
        settings.scorer (around.after file) = .ok s ∧ (s.thesis summary documents).toJson.pretty = text := by
  simp only [Command.print, SummarySource.summary, SummarySource.after, Surroundings.sources, bind_eq_ok_iff,
    Except.ok.injEq, exists_and_left]

/-- Without documents there are no sources. -/
theorem rank_file_alone_eq_ok_iff :
    (Command.rank (.file file) none).print settings around = .ok text ↔ ∃ summary s,
      around.text file = .ok summary ∧ settings.scorer (around.after file) = .ok s ∧
        (s.thesis summary []).toJson.pretty = text := by
  simp only [Command.print, SummarySource.summary, SummarySource.after, Surroundings.sources, bind_eq_ok_iff,
    Except.ok.injEq, exists_and_left, exists_eq_left']

theorem report_eq_ok_iff :
    (Command.report path topic none format clean).print settings around = .ok text ↔ ∃ documents e s r,
      around.documents path clean = .ok documents ∧ settings.extractor = .ok e ∧ settings.scorer around = .ok s ∧
        Generator.generate ⟨.extractive e, s⟩ topic documents = .ok r ∧ r.written format = text := by
  simp only [Command.print, Settings.summarizer, bind_assoc, ok_bind, bind_eq_ok_iff, mapError_eq_ok_iff,
    Except.ok.injEq, exists_and_left]

/-- The summary is read behind the documents, and trimmed. -/
theorem report_file_eq_ok_iff :
    (Command.report path topic (some file) format clean).print settings around = .ok text ↔ ∃ documents summary s r,
      around.documents path clean = .ok documents ∧ (around.after path).text file = .ok summary ∧
        settings.scorer around = .ok s ∧
        Generator.generate ⟨.external (Text.trimmed summary), s⟩ topic documents = .ok r ∧ r.written format = text := by
  simp only [Command.print, Settings.summarizer, bind_assoc, ok_bind, bind_eq_ok_iff, mapError_eq_ok_iff,
    Except.ok.injEq, exists_and_left]

end Printing

end MarketBrief
