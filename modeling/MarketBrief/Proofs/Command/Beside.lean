import MarketBrief.Proofs.Command.Arguments
import MarketBrief.Proofs.Command.Settings
import MarketBrief.Proofs.Settings.EnvFile

/-!
# A variable that does not matter

A command reads no variables, and an option takes the place of its variable.

* `Surroundings.beside`: what can be read but for one variable; `loaded_beside`, `print_beside`: what a file adds to it,
  and what a command prints;
* `Setting.put`: settings with another value for one of them; `read_map_put`, `apply_put`: reading an environment, and
  overrides;
* `settings_eq_of_beside`, `run_eq_of_beside`: with an option a run is the same for all values of its variable that
  stand for something.
-/

namespace MarketBrief

open Category MarketBrief.Lists

/-! ### What can be read -/

namespace Surroundings

variable {around s t : Surroundings} {name path : String}

/-- What can be read but for one variable. -/
def beside (around : Surroundings) (name : String) : Surroundings :=
  { around with environment := without name around.environment }

theorem after_beside : (around.beside name).after path = (around.after path).beside name := by
  unfold after
  split <;> rfl

theorem loaded_beside (h : ∀ file ∈ around.envFile?, EnvFile.LeavesAlone file name) :
    (around.beside name).loaded = around.loaded.map (without name) := by
  unfold loaded beside
  cases hfile : around.envFile? with
  | none => rfl
  | some file =>
    simp only [load_without (h file hfile)]
    cases around.environment.load file <;> rfl

theorem lookup_of_loaded (h : ∀ file ∈ around.envFile?, EnvFile.LeavesAlone file name) {e : Environment}
    (he : around.loaded = .ok e) : e.lookup name = around.environment.lookup name := by
  unfold loaded at he
  split at he
  · cases he
    rfl
  · next file hfile => exact lookup_of_load (h file hfile) (mapError_eq_ok_iff.1 he)

/-- What a file adds to two environments that differ in one variable: it fails for both, or gives two environments that
differ in that variable. -/
theorem loaded_of_beside (hbeside : s.beside name = t.beside name)
    (h : ∀ file ∈ s.envFile?, EnvFile.LeavesAlone file name) :
    (∃ fault, s.loaded = .error fault ∧ t.loaded = .error fault) ∨
      ∃ e e', s.loaded = .ok e ∧ t.loaded = .ok e' ∧ without name e = without name e' ∧
        e.lookup name = s.environment.lookup name ∧ e'.lookup name = t.environment.lookup name := by
  have hfile : (t.beside name).envFile? = (s.beside name).envFile? := congrArg _ hbeside.symm
  have h' : ∀ file ∈ t.envFile?, EnvFile.LeavesAlone file name := fun file hmem => h file (hfile ▸ hmem)
  have hloaded := loaded_beside h
  rw [hbeside, loaded_beside h'] at hloaded
  obtain hfault | ⟨e', e, he', he, hwithout⟩ := cases_of_map_eq_map hloaded
  · exact .inl (hfault.imp fun _ h => h.symm)
  · exact .inr ⟨e, e', he, he', hwithout.symm, lookup_of_loaded h he, lookup_of_loaded h' he'⟩

end Surroundings

/-- A command reads no variables. -/
theorem print_beside (c : Command) (settings : Settings) (around : Surroundings) (name : String) :
    c.print settings (around.beside name) = c.print settings around := by
  cases c with
  | summarize path clean => rfl
  | rank source path? =>
    rw [Command.print, Command.print]
    cases source with
    | text summary => cases path? <;> rfl
    | file file =>
      simp only [SummarySource.after, Surroundings.after_beside]
      cases path? <;> rfl
  | report path topic summary? format clean =>
    rw [Command.print, Command.print]
    cases summary? with
    | none => rfl
    | some file =>
      simp only [Settings.summarizer, Surroundings.after_beside]
      rfl
  | categories group? => rfl

theorem print_eq_of_beside {s t : Surroundings} {name : String} (h : s.beside name = t.beside name) (c : Command)
    (settings : Settings) : c.print settings s = c.print settings t := by
  rw [← print_beside c settings s name, h, print_beside]

/-! ### Other variables -/

theorem get?_eq_of_without {e e' : Environment} {name other : String} (h : without name e = without name e')
    (hother : other ≠ name) : e.get? other = e'.get? other :=
  get?_congr (by rw [← lookup_without_of_ne hother, h, lookup_without_of_ne hother])

namespace Setting

theorem variableName_injective : Function.Injective variableName := by
  intro j k h
  revert h
  cases j <;> cases k <;> decide

theorem logLevelVariable_ne (k : Setting) : Settings.logLevelVariable ≠ k.variableName := by cases k <;> decide

theorem filterVariable_ne (k : Setting) : Settings.LogFilter.filterVariable ≠ k.variableName := by cases k <;> decide

/-- Settings with another value for one of them. -/
def put : (k : Setting) → k.Value → Settings → Settings
  | categories, path?, s => { s with categoriesPath? := path? }
  | maxSentences, n, s => { s with maxSentences := n }
  | minWords, n, s => { s with minSentenceWords := n }
  | topN, n, s => { s with topN := n }
  | overlapThreshold, x, s => { s with overlapThreshold := x }

end Setting

namespace Settings

theorem readSetting_congr {e e' : Environment} {k : Setting} (h : e.get? k.variableName = e'.get? k.variableName) :
    readSetting e k = readSetting e' k := by
  cases k <;> simp only [Setting.variableName] at h <;> simp only [readSetting, readVariable, h]

/-- A variable that stands for something only gives its own setting. -/
theorem read_map_put {e e' : Environment} {k : Setting} (hbeside : without k.variableName e = without k.variableName e')
    (he : ¬k.IsFaulty e) (he' : ¬k.IsFaulty e') (x : k.Value) : (read e).map (k.put x) = (read e').map (k.put x) := by
  have hother : ∀ j, j ≠ k → readSetting e j = readSetting e' j := fun j hj =>
    readSetting_congr (get?_eq_of_without hbeside (Setting.variableName_injective.ne hj))
  have hlevel : e.get? logLevelVariable = e'.get? logLevelVariable :=
    get?_eq_of_without hbeside k.logLevelVariable_ne
  obtain ⟨v, hv⟩ := Setting.not_isFaulty_iff.1 he
  obtain ⟨v', hv'⟩ := Setting.not_isFaulty_iff.1 he'
  have hv := readSetting_eq_ok_iff.2 hv
  have hv' := readSetting_eq_ok_iff.2 hv'
  have hpath : k ≠ .categories → e.get? categoriesPathVariable = e'.get? categoriesPathVariable := fun hne =>
    get?_eq_of_without hbeside (Setting.variableName_injective.ne hne.symm)
  rw [read_eq_readSetting, read_eq_readSetting, hlevel]
  -- the variables are read one behind the other, and each of the others may end the reading
  cases k <;> simp only [hv, hv', hother, hpath, ne_eq, reduceCtorEq, not_false_eq_true] <;>
    cases readSetting e' .maxSentences <;> cases readSetting e' .minWords <;> cases readSetting e' .topN <;>
    cases readSetting e' .overlapThreshold <;> rfl

/-- The log filter of a run looks at one variable, which gives no setting. -/
theorem LogFilter.checkIn_eq_of_without {e e' : Environment} {k : Setting}
    (h : without k.variableName e = without k.variableName e') : LogFilter.checkIn e = LogFilter.checkIn e' := by
  funext level
  rw [LogFilter.checkIn, LogFilter.checkIn, get?_eq_of_without h k.filterVariable_ne]

end Settings

/-! ### Overrides -/

theorem isFaulty_iff_of_lookup {k : Setting} {e e' : Environment}
    (h : e.lookup k.variableName = e'.lookup k.variableName) : k.IsFaulty e ↔ k.IsFaulty e' := by
  rw [Setting.IsFaulty, Setting.IsFaulty, get?_congr h]

namespace Overrides

/-- A setting that is given as an option is not looked at. -/
theorem apply_put {o : Overrides} {k : Setting} (ho : (o.value? k).isSome = true) (x : k.Value) (s : Settings) :
    o.apply (k.put x s) = o.apply s := by
  obtain ⟨v, hv⟩ := Option.isSome_iff_exists.1 ho
  cases k with
  | categories =>
    obtain ⟨path, hpath, -⟩ := Option.map_eq_some_iff.1 hv
    simp only [apply, Setting.put, hpath, Option.some_or]
  | maxSentences | minWords | topN =>
    simp only [value?] at hv
    simp only [apply, Setting.put, hv, Option.getD_some]
  | overlapThreshold =>
    simp only [value?] at hv
    simp only [apply, Setting.put, hv]

section Beside

variable {s t : Surroundings} {k : Setting}

/-- With an option the settings are the same for all values of its variable that stand for something. -/
theorem settings_eq_of_beside {o : Overrides} (hbeside : s.beside k.variableName = t.beside k.variableName)
    (hfile : ∀ file ∈ s.envFile?, EnvFile.LeavesAlone file k.variableName) (hs : ¬k.IsFaulty s.environment)
    (ht : ¬k.IsFaulty t.environment) (ho : (o.value? k).isSome = true) : o.settings s = o.settings t := by
  rw [Overrides.settings, Overrides.settings]
  obtain ⟨fault, hsl, htl⟩ | ⟨e, e', hsl, htl, hwithout, he, he'⟩ := Surroundings.loaded_of_beside hbeside hfile
  · rw [hsl, htl]
  have hread := Settings.read_map_put hwithout (mt (isFaulty_iff_of_lookup he).1 hs)
    (mt (isFaulty_iff_of_lookup he').1 ht) (k.value {})
  rw [hsl, htl, ok_bind, ok_bind, Settings.LogFilter.checkIn_eq_of_without hwithout]
  obtain ⟨fault, hgiven, hgiven'⟩ | ⟨given, given', hgiven, hgiven', hput⟩ := cases_of_map_eq_map hread
  · rw [hgiven, hgiven']
  · have happly : o.apply given = o.apply given' := by
      rw [← apply_put ho (k.value {}) given, hput, apply_put ho]
    have hok : ∀ s : Settings, (Except.ok s).mapError Failure.badVariable = .ok s := fun _ => rfl
    rw [hgiven, hgiven', hok, hok, ok_bind, ok_bind, happly]

end Beside

end Overrides

/-! ### Runs -/

theorem isSome_value?_of_read {arguments : List String} {i : Invocation} (h : Invocation.read arguments = .ok i)
    {k : Setting} {argument : String} (hmem : argument ∈ arguments) (hname : Command.IsOption argument k.optionName) :
    (i.overrides.value? k).isSome = true := by
  obtain ⟨p, o, q, hscan, ho, hq, -, hoverrides⟩ := Invocation.read_eq_ok_iff.1 h
  have hsome := Invocation.isSome_lookup_of_scan hscan hmem hname
  rw [Option.isSome_or] at hsome
  rw [hoverrides, Overrides.value?_orElse, Option.isSome_or, Overrides.isSome_value?_of_ofGiven ho,
    Overrides.isSome_value?_of_ofGiven hq, hsome]

theorem run_eq_of_beside {s t : Surroundings} {k : Setting}
    (hbeside : s.beside k.variableName = t.beside k.variableName)
    (hfile : ∀ file ∈ s.envFile?, EnvFile.LeavesAlone file k.variableName) (hs : ¬k.IsFaulty s.environment)
    (ht : ¬k.IsFaulty t.environment) {arguments : List String} {argument : String} (hmem : argument ∈ arguments)
    (hname : Command.IsOption argument k.optionName) : run s arguments = run t arguments := by
  cases hread : Invocation.read arguments with
  | error fault => rw [run_eq_misused hread, run_eq_misused hread]
  | ok i =>
    have hsettings := Overrides.settings_eq_of_beside hbeside hfile hs ht (isSome_value?_of_read hread hmem hname)
    have hprint : i.print s = i.print t := by
      rw [Invocation.print, Invocation.print, hsettings]
      exact bind_congr fun settings => print_eq_of_beside hbeside i.command settings
    cases hs : i.print s with
    | ok text => rw [run_eq_printed hread hs, run_eq_printed hread (hprint.symm.trans hs)]
    | error f => rw [run_eq_of_error hread hs, run_eq_of_error hread (hprint.symm.trans hs)]

end MarketBrief
