import MarketBrief.Proofs.Command.Settings
import MarketBrief.Proofs.Extraction.Copies

/-!
# The threshold of a run

A threshold is looked at in three places: when a variable is read, when an option is applied, and when an extractor is
made. What passes the first two passes the third.

* `isFraction_of_read`, `isFraction_of_apply`: settings have a threshold between zero and one;
* `print_failsOnly`, `settings_failsOnly`: what commands and settings fail for; `not_isOfExtraction_of_run`: no run
  fails for its extractor;
* `run_eq_of_settings_eq_error`, `exists_settings_eq_error`: a run with a threshold that is out of range fails before
  anything is read;
* `threshold_in_range`: all of this.
-/

namespace MarketBrief

open Category Extraction Number

/-! ### Settings -/

theorem isFraction_of_read {e : Environment} {s : Settings} (h : Settings.read e = .ok s) :
    s.overlapThreshold.isFraction = true := by
  have hset := (Settings.read_eq_ok_iff_isSetTo.1 h).2 .overlapThreshold
  simp only [Setting.IsSetTo, Setting.value] at hset
  split at hset
  · rw [hset, isFraction_default]
  · exact Bool.and_eq_true_iff.2 hset.2

theorem isFraction_of_apply {o : Overrides} {given s : Settings} (hgiven : given.overlapThreshold.isFraction = true)
    (h : o.apply given = .ok s) : s.overlapThreshold.isFraction = true := by
  obtain ⟨hallows, -, hvalues⟩ := Overrides.apply_eq_ok_iff.1 h
  have hvalue := hvalues .overlapThreshold
  have hallows := hallows .overlapThreshold
  simp only [Setting.value, Overrides.value?, Setting.Allows] at hvalue hallows
  rw [hvalue]
  cases hx : o.overlapThreshold? with
  | none => exact hgiven
  | some x => exact hallows x hx

theorem isFraction_of_settings {o : Overrides} {around : Surroundings} {s : Settings}
    (h : o.settings around = .ok s) : s.overlapThreshold.isFraction = true := by
  obtain ⟨e, given, -, hread, happly, -⟩ := Overrides.settings_eq_ok_iff.1 h
  exact isFraction_of_apply (isFraction_of_read hread) happly

theorem exists_extractor_eq_ok {s : Settings} (h : s.overlapThreshold.isFraction = true) :
    ∃ x, s.extractor = .ok x ∧ x.options = s.extraction :=
  ⟨⟨s.extraction, .fintech, h⟩, extractor_eq_ok_iff.2 ⟨rfl, rfl⟩, rfl⟩

/-! ### Failures -/

def Failure.IsOfExtraction : Failure → Prop
  | .noExtractor _ => True
  | .noReport _ => True
  | _ => False

/-- Failures of the environment, its file, and the overrides. -/
def Failure.IsOfSettings : Failure → Prop
  | .badVariable _ => True
  | .badThreshold _ => True
  | .unsettable _ => True
  | _ => False

section Errors

variable {around : Surroundings} {settings : Settings} {path : String}

theorem text_failsOnly : FailsOnly (¬·.IsOfExtraction) (around.text path) := by
  unfold Surroundings.text
  split <;> split <;> first | exact failsOnly_ok | exact failsOnly_error not_false

theorem documents_failsOnly {clean : Bool} : FailsOnly (¬·.IsOfExtraction) (around.documents path clean) := by
  refine text_failsOnly.bind fun text _ => ?_
  split
  · exact failsOnly_error not_false
  · exact failsOnly_ok

theorem summary_failsOnly {source : SummarySource} : FailsOnly (¬·.IsOfExtraction) (source.summary around) := by
  cases source with
  | text summary => exact failsOnly_ok
  | file path => exact text_failsOnly

theorem sources_failsOnly {path? : Option String} : FailsOnly (¬·.IsOfExtraction) (around.sources path?) := by
  cases path? with
  | none => exact failsOnly_ok
  | some path => exact documents_failsOnly

theorem table_failsOnly : FailsOnly (¬·.IsOfExtraction) ((settings.table around.read?).mapError Failure.noTable) :=
  failsOnly_mapError fun _ => not_false

theorem scorer_failsOnly : FailsOnly (¬·.IsOfExtraction) (settings.scorer around) :=
  table_failsOnly.bind fun _ _ => failsOnly_ok

theorem summarizer_failsOnly {x : Extractor} (hx : settings.extractor = .ok x) {summary? : Option String} :
    FailsOnly (¬·.IsOfExtraction) (settings.summarizer around path summary?) := by
  cases summary? with
  | none =>
    rw [Settings.summarizer, hx]
    exact failsOnly_ok
  | some file => exact text_failsOnly.bind fun _ _ => failsOnly_ok

/-- With an extractor at hand, a command fails for nothing but what it reads. -/
theorem print_failsOnly {x : Extractor} (hx : settings.extractor = .ok x) (c : Command) :
    FailsOnly (¬·.IsOfExtraction) (c.print settings around) := by
  cases c with
  | summarize path clean =>
    rw [Command.print, hx]
    exact documents_failsOnly.bind fun _ _ => failsOnly_ok
  | rank source path? =>
    rw [Command.print]
    exact summary_failsOnly.bind fun _ _ => sources_failsOnly.bind fun _ _ => scorer_failsOnly.bind fun _ _ =>
      failsOnly_ok
  | report path topic summary? format clean =>
    rw [Command.print]
    refine documents_failsOnly.bind fun documents _ => (summarizer_failsOnly hx).bind fun summarizer hsummarizer =>
      scorer_failsOnly.bind fun s _ => ?_
    obtain ⟨r, hr⟩ := exists_generate_eq_ok hsummarizer s topic documents
    rw [hr]
    exact failsOnly_ok
  | categories group? =>
    rw [Command.print]
    exact table_failsOnly.bind fun _ _ => failsOnly_ok

theorem loaded_failsOnly : FailsOnly Failure.IsOfSettings around.loaded := by
  unfold Surroundings.loaded
  split
  · exact failsOnly_ok
  · exact failsOnly_mapError fun _ => trivial

/-- Settings with overrides fail for what they are made of, or for the log filter. -/
theorem settings_failsOnly {o : Overrides} :
    FailsOnly (fun f => f.IsOfSettings ∨ ∃ fault, f = .badFilter fault) (o.settings around) :=
  FailsOnly.bind (fun f h => .inl (loaded_failsOnly f h)) fun _ _ =>
    (failsOnly_mapError fun _ => .inl trivial).bind fun _ _ =>
      (failsOnly_mapError fun _ => .inl trivial).bind fun _ _ =>
        (failsOnly_mapError fun fault => .inr ⟨fault, rfl⟩).bind fun _ _ => failsOnly_ok

end Errors

/-! ### Runs -/

section Runs

variable {around : Surroundings} {arguments : List String} {i : Invocation} {f : Failure}

theorem not_isOfExtraction_of_print (h : i.print around = .error f) : ¬f.IsOfExtraction := by
  obtain hsettings | ⟨s, hsettings, hprint⟩ := bind_eq_error_iff.1 h
  · obtain hearly | ⟨fault, rfl⟩ := settings_failsOnly f hsettings
    · cases f <;> first | exact hearly.elim | exact not_false
    · exact not_false
  · obtain ⟨x, hx, -⟩ := exists_extractor_eq_ok (isFraction_of_settings hsettings)
    exact print_failsOnly hx _ f hprint

theorem not_isOfExtraction_of_run (h : (run around arguments).ending = .failed f) : ¬f.IsOfExtraction := by
  cases hread : Invocation.read arguments with
  | error e => simp [run_eq_misused hread, Outcome.misused] at h
  | ok i =>
    cases hprint : i.print around with
    | ok text => simp [run_eq_printed hread hprint, Outcome.printed] at h
    | error f' =>
      have hf : f' = f := by
        rw [run_eq_of_error hread hprint] at h
        split at h
        · simp [Outcome.aborted] at h
        · exact Ending.failed.inj h
      exact hf ▸ not_isOfExtraction_of_print hprint

/-- A run without settings fails before its command starts. -/
theorem run_eq_of_settings_eq_error (hread : Invocation.read arguments = .ok i)
    (h : i.overrides.settings around = .error f) :
    run around arguments = if f.aborts then .aborted f else .failed f :=
  run_eq_of_error hread (bind_eq_error_iff.2 (.inl h))

/-- The threshold among the arguments is out of range, or the variable holds none that is in range. -/
def Invocation.HasBadThreshold (i : Invocation) (around : Surroundings) : Prop :=
  (∃ x, i.overrides.overlapThreshold? = some x ∧ x.isFraction = false) ∨
    ∃ e, around.loaded = .ok e ∧ Setting.overlapThreshold.IsFaulty e

theorem exists_settings_eq_error (h : i.HasBadThreshold around) :
    ∃ f : Failure, f.IsOfSettings ∧ i.overrides.settings around = .error f := by
  unfold Overrides.settings
  cases hloaded : around.loaded with
  | error f => exact ⟨f, loaded_failsOnly f hloaded, rfl⟩
  | ok e =>
    rw [ok_bind]
    cases hread : Settings.read e with
    | error fault => exact ⟨.badVariable fault, trivial, rfl⟩
    | ok given =>
      obtain ⟨x, hx, hrange⟩ | ⟨e', he', hfaulty⟩ := h
      · refine ⟨.badThreshold ⟨x⟩, trivial, ?_⟩
        have happly : i.overrides.apply given = .error ⟨x⟩ := by
          have hcheck : Settings.checkThreshold x = .error ⟨x⟩ := if_neg (by simp [hrange])
          simp only [Overrides.apply, hx, hcheck]
          rfl
        rw [Except.mapError, ok_bind, happly]
        rfl
      · cases hloaded.symm.trans he'
        exact absurd hfaulty (Settings.exists_read_eq_ok_iff.1 ⟨given, hread⟩ .overlapThreshold)

end Runs

/-- **A threshold in range.** Settings of an environment, with overrides applied, have a threshold between zero and one,
so there is an extractor under them, and no run fails for want of one. With any other threshold a run fails in the same
way whatever it could read. -/
theorem threshold_in_range :
    (∀ (e : Environment) (o : Overrides) (given s : Settings), Settings.read e = .ok given → o.apply given = .ok s →
      Binary64.zero.le s.overlapThreshold = true ∧ s.overlapThreshold.le .one = true ∧ s.overlapThreshold ≠ .nan ∧
        ∃ x, s.extractor = .ok x ∧ x.options = s.extraction) ∧
    (∀ around arguments, (∀ e, (run around arguments).ending ≠ .failed (.noExtractor e)) ∧
      ∀ e, (run around arguments).ending ≠ .failed (.noReport e)) ∧
    ∀ around arguments i, Invocation.read arguments = .ok i → i.HasBadThreshold around →
      ∃ f : Failure, f.IsOfSettings ∧ ∀ (read? : String → Option ByteArray) (input : ByteArray),
        run { around with read? := read?, input := input } arguments = if f.aborts then .aborted f else .failed f := by
  refine ⟨fun e o given s hread happly => ?_, fun around arguments => ⟨fun e h => ?_, fun e h => ?_⟩, ?_⟩
  · have hfraction := isFraction_of_apply (isFraction_of_read hread) happly
    obtain ⟨hzero, hone⟩ := Bool.and_eq_true_iff.1 hfraction
    exact ⟨hzero, hone, ne_nan_of_isFraction hfraction, exists_extractor_eq_ok hfraction⟩
  · exact not_isOfExtraction_of_run h trivial
  · exact not_isOfExtraction_of_run h trivial
  · intro around arguments i hread hbad
    obtain ⟨f, hearly, hsettings⟩ := exists_settings_eq_error hbad
    -- neither the settings nor their check look at files or the standard input
    exact ⟨f, hearly, fun read? input => run_eq_of_settings_eq_error hread hsettings⟩

/-! Thresholds at both ends, the lower one with a sign, and one that is no number. -/

namespace Edges

/-- An environment with minus zero. -/
def environment : Environment := [(Settings.overlapThresholdVariable, "-0".toUTF8)]

def given : Settings := { overlapThreshold := .finite true 0 }

def around : Surroundings := { environment, read? := fun _ => none }

def summarize : Invocation := ⟨{ overlapThreshold? := some .nan }, .summarize "news.json" false⟩

theorem read_environment : Settings.read environment = .ok given := by decide +kernel

theorem apply_one : Overrides.apply { overlapThreshold? := some .one } given = .ok { overlapThreshold := .one } := by
  decide +kernel

theorem read_summarize :
    Invocation.read ["--overlap-threshold=NaN", "summarize", "--docs", "news.json"] = .ok summarize := by
  decide +kernel

theorem threshold_in_range_at_edges :
    Settings.read environment = .ok given ∧
    Overrides.apply { overlapThreshold? := some .one } given = .ok { overlapThreshold := .one } ∧
    (∃ x, Settings.extractor { overlapThreshold := .one } = .ok x ∧
      x.options = Settings.extraction { overlapThreshold := .one }) ∧
    Invocation.read ["--overlap-threshold=NaN", "summarize", "--docs", "news.json"] = .ok summarize ∧
    ∃ f : Failure, f.IsOfSettings ∧ ∀ (read? : String → Option ByteArray) (input : ByteArray),
      run { around with read? := read?, input := input }
        ["--overlap-threshold=NaN", "summarize", "--docs", "news.json"] = if f.aborts then .aborted f else .failed f :=
  ⟨read_environment, apply_one, (threshold_in_range.1 _ _ _ _ read_environment apply_one).2.2.2, read_summarize,
    threshold_in_range.2.2 around _ summarize read_summarize (.inl ⟨.nan, rfl, rfl⟩)⟩

end Edges

end MarketBrief
