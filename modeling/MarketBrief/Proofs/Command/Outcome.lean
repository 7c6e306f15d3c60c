import MarketBrief.Proofs.Command.Threshold

/-!
# All or nothing

A run prints a result as a whole, or nothing. It prints if its arguments, its settings and all that its command reads
are in order, and there is nothing else that it depends on.

* `Surroundings.TextAt`, `Surroundings.DocumentsAt`, `Settings.TableAt`: what can be read;
* `Command.HasInputs`: all that a command reads is there; `Command.Result`: the text that a command makes of it;
* `print_eq_ok_iff`, `exists_result_iff`: a command prints its result, and has one if its inputs are there;
* `no_partial_output`: a run prints the result of its command, or nothing.
-/

namespace MarketBrief

open Category Extraction

/-! ### What can be read -/

namespace Surroundings

variable {around : Surroundings} {path text : String}

/-- The bytes of a file, or of the standard input for a dash, are a text. -/
def TextAt (around : Surroundings) (path text : String) : Prop :=
  (if path = "-" then some around.input else around.read? path) >>= String.fromUTF8? = some text

/-- The text of a file is a list of documents. -/
def DocumentsAt (around : Surroundings) (path : String) (documents : List Document) : Prop :=
  ∃ text, around.TextAt path text ∧ Document.readList? text = some documents

/-- The documents of a file that need not be named. -/
def SourcesAt (around : Surroundings) (path? : Option String) (documents : List Document) : Prop :=
  match path? with
  | none => documents = []
  | some path => around.DocumentsAt path documents

theorem text_eq_ok_iff : around.text path = .ok text ↔ around.TextAt path text := by
  unfold Surroundings.text TextAt
  by_cases hdash : path = "-"
  · simp only [if_pos hdash, Option.bind_eq_bind, Option.bind_some]
    cases String.fromUTF8? around.input <;> simp
  · simp only [if_neg hdash]
    cases around.read? path >>= String.fromUTF8? <;> simp

end Surroundings

def prepared (clean : Bool) (documents : List Document) : List Document :=
  if clean then documents.map Document.cleaned else documents

/-- A summary is given, or can be read. -/
def SummarySource.SummaryAt (source : SummarySource) (around : Surroundings) (summary : String) : Prop :=
  match source with
  | .text given => given = summary
  | .file path => around.TextAt path summary

/-- The table that settings ask for: the built-in one, or that of a file. -/
def Settings.TableAt (s : Settings) (around : Surroundings) (t : Table) : Prop :=
  match s.categoriesPath? with
  | none => t = .fintech
  | some path => ∃ text, around.read? path >>= String.fromUTF8? = some text ∧ Table.read text = .ok t

section Reading

variable {around : Surroundings} {settings : Settings} {path : String}

theorem documents_eq_ok_iff_prepared {clean : Bool} {documents : List Document} :
    around.documents path clean = .ok documents ↔
      ∃ found, around.DocumentsAt path found ∧ documents = prepared clean found := by
  simp only [documents_eq_ok_iff, Surroundings.text_eq_ok_iff, Surroundings.DocumentsAt, prepared]
  constructor
  · rintro ⟨text, found, htext, hfound, rfl⟩
    exact ⟨found, ⟨text, htext, hfound⟩, rfl⟩
  · rintro ⟨found, ⟨text, htext, hfound⟩, rfl⟩
    exact ⟨text, found, htext, hfound, rfl⟩

theorem sources_eq_ok_iff {path? : Option String} {documents : List Document} :
    around.sources path? = .ok documents ↔ around.SourcesAt path? documents := by
  cases path? with
  | none => simp only [Surroundings.sources, Surroundings.SourcesAt, Except.ok.injEq, eq_comm]
  | some path =>
    simp [Surroundings.sources, Surroundings.SourcesAt, documents_eq_ok_iff_prepared, prepared]

theorem summary_eq_ok_iff {source : SummarySource} {summary : String} :
    source.summary around = .ok summary ↔ source.SummaryAt around summary := by
  cases source with
  | text given => simp only [SummarySource.summary, SummarySource.SummaryAt, Except.ok.injEq]
  | file path => exact Surroundings.text_eq_ok_iff

theorem table_eq_ok_iff {t : Table} : settings.table around.read? = .ok t ↔ settings.TableAt around t := by
  unfold Settings.table Settings.TableAt
  cases settings.categoriesPath? with
  | none => simp only [Except.ok.injEq, eq_comm]
  | some path =>
    dsimp only
    cases around.read? path >>= String.fromUTF8? with
    | none => simp [Table.load]
    | some text => simp [Table.load]

end Reading

/-! ### Results -/

namespace Command

/-- All that a command reads is there: its documents, its summary and its table. The standard input is empty once it has
been read. -/
def HasInputs (settings : Settings) (around : Surroundings) : Command → Prop
  | .summarize path _ => ∃ documents, around.DocumentsAt path documents
  | .rank source path? => (∃ summary, source.SummaryAt around summary) ∧
      (∃ documents, (source.after around).SourcesAt path? documents) ∧ ∃ t, settings.TableAt around t
  | .report path _ summary? _ _ => (∃ documents, around.DocumentsAt path documents) ∧
      (∀ file ∈ summary?, ∃ summary, (around.after path).TextAt file summary) ∧ ∃ t, settings.TableAt around t
  | .categories _ => ∃ t, settings.TableAt around t

/-- The text that a command makes of what it reads. -/
inductive Result (settings : Settings) (around : Surroundings) : Command → String → Prop
  | summarize {path : String} {clean : Bool} {documents : List Document} {x : Extractor}
      (hdocuments : around.DocumentsAt path documents) (hx : settings.extractor = .ok x) :
      Result settings around (.summarize path clean) (x.summary (prepared clean documents))
  | rank {source : SummarySource} {path? : Option String} {summary : String} {documents : List Document} {t : Table}
      (hsummary : source.SummaryAt around summary) (hdocuments : (source.after around).SourcesAt path? documents)
      (ht : settings.TableAt around t) :
      Result settings around (.rank source path?)
        (Scorer.thesis { table := t, topN := settings.topN } summary documents).toJson.pretty
  | report {path topic : String} {format : ReportFormat} {clean : Bool} {documents : List Document} {x : Extractor}
      {t : Table} (hdocuments : around.DocumentsAt path documents) (hx : settings.extractor = .ok x)
      (ht : settings.TableAt around t) :
      Result settings around (.report path topic none format clean)
        (Report.written
          { topic, summarizer := "local-extractor", summary := x.summary (prepared clean documents)
            thesis := Scorer.thesis { table := t, topN := settings.topN } (x.summary (prepared clean documents))
              (prepared clean documents) } format)
  | reportOn {path topic file summary : String} {format : ReportFormat} {clean : Bool} {documents : List Document}
      {t : Table} (hdocuments : around.DocumentsAt path documents)
      (hsummary : (around.after path).TextAt file summary) (ht : settings.TableAt around t) :
      Result settings around (.report path topic (some file) format clean)
        (Report.written
          { topic, summarizer := "external", summary := Text.trimmed summary
            thesis := Scorer.thesis { table := t, topN := settings.topN } (Text.trimmed summary)
              (prepared clean documents) } format)
  | categories {group? : Option Group} {t : Table} (ht : settings.TableAt around t) :
      Result settings around (.categories group?) (t.listing (group?.elim Group.all ([·]))).pretty

end Command

section Results

variable {settings : Settings} {around : Surroundings} {c : Command} {result : String}

theorem tableAt_after {source : SummarySource} {t : Table} :
    settings.TableAt (source.after around) t ↔ settings.TableAt around t := by
  have hread : (source.after around).read? = around.read? := by
    cases source with
    | text summary => rfl
    | file path =>
      simp only [SummarySource.after, Surroundings.after]
      split <;> rfl
  rw [Settings.TableAt, hread, Settings.TableAt]

theorem scorer_eq_ok_iff_tableAt {s : Scorer} :
    settings.scorer around = .ok s ↔
      ∃ t, settings.TableAt around t ∧ { table := t, topN := settings.topN } = s := by
  simp only [scorer_eq_ok_iff, table_eq_ok_iff]

/-- A command prints the text that it makes of what it reads. -/
theorem print_eq_ok_iff : c.print settings around = .ok result ↔ c.Result settings around result := by
  constructor
  · intro h
    cases c with
    | summarize path clean =>
      obtain ⟨_, x, hread, hx, rfl⟩ := summarize_eq_ok_iff.1 h
      obtain ⟨documents, hdocuments, rfl⟩ := documents_eq_ok_iff_prepared.1 hread
      exact .summarize hdocuments hx
    | rank source path? =>
      simp only [Command.print, bind_eq_ok_iff, summary_eq_ok_iff, sources_eq_ok_iff, scorer_eq_ok_iff_tableAt,
        tableAt_after, Except.ok.injEq] at h
      obtain ⟨summary, hsummary, documents, hdocuments, _, ⟨t, ht, rfl⟩, rfl⟩ := h
      exact .rank hsummary hdocuments ht
    | report path topic summary? format clean =>
      cases summary? with
      | none =>
        obtain ⟨_, x, _, r, hread, hx, hs, hr, rfl⟩ := report_eq_ok_iff.1 h
        obtain ⟨documents, hdocuments, rfl⟩ := documents_eq_ok_iff_prepared.1 hread
        obtain ⟨t, ht, rfl⟩ := scorer_eq_ok_iff_tableAt.1 hs
        cases hr
        exact .report hdocuments hx ht
      | some file =>
        obtain ⟨_, summary, _, r, hread, hsummary, hs, hr, rfl⟩ := report_file_eq_ok_iff.1 h
        obtain ⟨documents, hdocuments, rfl⟩ := documents_eq_ok_iff_prepared.1 hread
        obtain ⟨t, ht, rfl⟩ := scorer_eq_ok_iff_tableAt.1 hs
        cases hr
        exact .reportOn hdocuments (Surroundings.text_eq_ok_iff.1 hsummary) ht
    | categories group? =>
      simp only [Command.print, bind_eq_ok_iff, mapError_eq_ok_iff, table_eq_ok_iff, Except.ok.injEq] at h
      obtain ⟨t, ht, rfl⟩ := h
      exact .categories ht
  · intro h
    cases h with
    | summarize hdocuments hx =>
      exact summarize_eq_ok_iff.2 ⟨_, _, documents_eq_ok_iff_prepared.2 ⟨_, hdocuments, rfl⟩, hx, rfl⟩
    | rank hsummary hdocuments ht =>
      simp only [Command.print, bind_eq_ok_iff, summary_eq_ok_iff, sources_eq_ok_iff, scorer_eq_ok_iff_tableAt,
        tableAt_after, Except.ok.injEq]
      exact ⟨_, hsummary, _, hdocuments, _, ⟨_, ht, rfl⟩, rfl⟩
    | report hdocuments hx ht =>
      exact report_eq_ok_iff.2 ⟨_, _, _, _, documents_eq_ok_iff_prepared.2 ⟨_, hdocuments, rfl⟩, hx,
        scorer_eq_ok_iff_tableAt.2 ⟨_, ht, rfl⟩, rfl, rfl⟩
    | reportOn hdocuments hsummary ht =>
      exact report_file_eq_ok_iff.2 ⟨_, _, _, _, documents_eq_ok_iff_prepared.2 ⟨_, hdocuments, rfl⟩,
        Surroundings.text_eq_ok_iff.2 hsummary, scorer_eq_ok_iff_tableAt.2 ⟨_, ht, rfl⟩, rfl, rfl⟩
    | categories ht =>
      simp only [Command.print, bind_eq_ok_iff, mapError_eq_ok_iff, table_eq_ok_iff, Except.ok.injEq]
      exact ⟨_, ht, rfl⟩

/-- With a threshold in range a command has a result if its inputs are there. -/
theorem exists_result_iff (h : settings.overlapThreshold.isFraction = true) :
    (∃ result, c.Result settings around result) ↔ c.HasInputs settings around := by
  obtain ⟨x, hx, -⟩ := exists_extractor_eq_ok h
  constructor
  · rintro ⟨result, hresult⟩
    cases hresult with
    | summarize hdocuments _ => exact ⟨_, hdocuments⟩
    | rank hsummary hdocuments ht => exact ⟨⟨_, hsummary⟩, ⟨_, hdocuments⟩, _, ht⟩
    | report hdocuments _ ht => exact ⟨⟨_, hdocuments⟩, nofun, _, ht⟩
    | reportOn hdocuments hsummary ht =>
      refine ⟨⟨_, hdocuments⟩, fun file hfile => ?_, _, ht⟩
      cases Option.some.inj hfile
      exact ⟨_, hsummary⟩
    | categories ht => exact ⟨_, ht⟩
  · intro hinputs
    cases c with
    | summarize path clean =>
      obtain ⟨documents, hdocuments⟩ := hinputs
      exact ⟨_, .summarize hdocuments hx⟩
    | rank source path? =>
      obtain ⟨⟨summary, hsummary⟩, ⟨documents, hdocuments⟩, t, ht⟩ := hinputs
      exact ⟨_, .rank hsummary hdocuments ht⟩
    | report path topic summary? format clean =>
      obtain ⟨⟨documents, hdocuments⟩, hsummary, t, ht⟩ := hinputs
      cases summary? with
      | none => exact ⟨_, .report hdocuments hx ht⟩
      | some file =>
        obtain ⟨summary, hsummary⟩ := hsummary file rfl
        exact ⟨_, .reportOn hdocuments hsummary ht⟩
    | categories group? =>
      obtain ⟨t, ht⟩ := hinputs
      exact ⟨_, .categories ht⟩

end Results

/-! ### Runs -/

theorem run_eq_printed_iff_result {around : Surroundings} {arguments : List String} {text : String} :
    run around arguments = .printed text ↔ ∃ i s, Invocation.read arguments = .ok i ∧
      i.overrides.settings around = .ok s ∧ i.command.Result s around text := by
  simp only [run_eq_printed_iff, print_eq_ok_iff]

/-- **All or nothing.** A run succeeds if its arguments have a meaning, its settings are valid and all that its command
reads is there. It then writes once, the whole result of its command as a line. A run that fails, for whatever reason,
has written nothing by then. -/
theorem no_partial_output (around : Surroundings) (arguments : List String) :
    ((run around arguments).exitCode = 0 ↔ ∃ i s, Invocation.read arguments = .ok i ∧
      i.overrides.settings around = .ok s ∧ i.command.HasInputs s around) ∧
    (∀ line, (run around arguments).exitCode = 0 ∧ (run around arguments).output = line ↔
      ∃ i s result, Invocation.read arguments = .ok i ∧ i.overrides.settings around = .ok s ∧
        i.command.Result s around result ∧ line = result ++ "\n") ∧
    ((run around arguments).exitCode = 0 → (run around arguments).written = [(run around arguments).output]) ∧
    ((run around arguments).exitCode ≠ 0 → (run around arguments).written = [] ∧
      (run around arguments).output = "") := by
  refine ⟨?_, fun line => ?_, fun hzero => ?_, fun h => ⟨written_of_exitCode_ne h, output_of_exitCode_ne h⟩⟩
  · simp only [exitCode_eq_zero_iff, run_eq_printed_iff_result]
    constructor
    · rintro ⟨text, i, s, hread, hsettings, hresult⟩
      exact ⟨i, s, hread, hsettings, (exists_result_iff (isFraction_of_settings hsettings)).1 ⟨text, hresult⟩⟩
    · rintro ⟨i, s, hread, hsettings, hinputs⟩
      obtain ⟨text, hresult⟩ := (exists_result_iff (isFraction_of_settings hsettings)).2 hinputs
      exact ⟨text, i, s, hread, hsettings, hresult⟩
  · constructor
    · rintro ⟨hzero, rfl⟩
      obtain ⟨text, hrun⟩ := exitCode_eq_zero_iff.1 hzero
      obtain ⟨i, s, hread, hsettings, hresult⟩ := run_eq_printed_iff_result.1 hrun
      exact ⟨i, s, text, hread, hsettings, hresult, by rw [hrun, Outcome.output_printed]⟩
    · rintro ⟨i, s, text, hread, hsettings, hresult, rfl⟩
      rw [run_eq_printed_iff_result.2 ⟨i, s, hread, hsettings, hresult⟩]
      exact ⟨rfl, Outcome.output_printed text⟩
  · obtain ⟨text, hrun⟩ := exitCode_eq_zero_iff.1 hzero
    rw [hrun, Outcome.output_printed]
    rfl

/-! A level that is no filter ends a run, unless the variable of the filter holds one. -/

example : (run { environment := [("FINTHESIS_LOG_LEVEL", "=".toUTF8)], read? := fun _ => none }
    ["structure", "--summary", "x"]).exitCode = 1 := by decide +kernel

example : (run
    { environment := [("RUST_LOG", "info".toUTF8), ("FINTHESIS_LOG_LEVEL", "=".toUTF8)], read? := fun _ => none }
    ["structure", "--summary", "x"]).exitCode = 0 := by decide +kernel

end MarketBrief
