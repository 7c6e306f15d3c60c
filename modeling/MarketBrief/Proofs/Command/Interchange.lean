import MarketBrief.Proofs.Command.Beside
import MarketBrief.Proofs.Folder

/-!
# An option or its variable

A setting may be given by an option or by a variable, and the option takes the place of the variable.

* `Setting.option`: an option with its value; `writes_iff`: a text without blanks at its ends stands for the same in
  both places;
* `Setting.IsResolved`, `Parts.Settles`: the value of a setting, and the settings of a run; `settings_iff_settles`,
  `run_eq_printed_iff_settles`: a run has the settings that its arguments and its environment settle;
* `settles_without_iff`: they are the same whether a value is given by the option or by the variable;
* `option_or_variable`: a run prints the same.
-/

namespace MarketBrief

open Command MarketBrief.Lists Number Text

/-! ### One setting -/

namespace Setting

variable {k : Setting} {e e' : Environment} {text : String} {v v' : k.Value}

def option (k : Setting) (value : String) : String := joinedOption k.optionName value

theorem splitOption?_option (k : Setting) (value : String) :
    splitOption? (k.option value).toList = some (k.optionName, some value) := by
  refine splitOption?_joinedOption ?_ ?_ value <;> cases k <;> decide

/-- The value of a setting: what the option stands for if it is given, and else what the environment gives. The variable
must not be faulty even if it does not matter. -/
def IsResolved (k : Setting) (text? : Option String) (e : Environment) (v : k.Value) : Prop :=
  ¬k.IsFaulty e ∧
    match text? with
    | none => k.IsSetTo e v
    | some text => k.readOption? text = some v ∧ k.Allows v

theorem IsSetTo.unique (h : k.IsSetTo e v) (h' : k.IsSetTo e v') : v = v' := by
  have h := Settings.readSetting_eq_ok_iff.2 h
  rw [Settings.readSetting_eq_ok_iff.2 h'] at h
  exact (Except.ok.inj h).symm

theorem isResolved_congr (h : e.get? k.variableName = e'.get? k.variableName) (text? : Option String) :
    k.IsResolved text? e v ↔ k.IsResolved text? e' v := by
  unfold IsResolved IsFaulty IsSetTo
  rw [h]

/-- A text without blanks at its ends stands for the same in a variable and behind an option. -/
theorem writes_iff (hne : text ≠ "") (htrim : trimmed text = text) :
    k.Writes text v ↔ k.readOption? text = some v ∧ k.Allows v := by
  have hchars : trim text.toList = text.toList := by rw [← toList_trimmed, htrim]
  have hnatural : ∀ n : Nat, IsNumeral (trim text.toList) n ↔ (readNatural text.toList).toOption = some n := by
    intro n
    rw [hchars, ← readNatural_eq_ok_iff]
    cases readNatural text.toList <;> simp [Except.toOption]
  cases k with
  | categories =>
    have hblank : isBlankText text = false := by
      rw [Bool.eq_false_iff, ne_eq, ← trimmed_eq_empty_iff, htrim]
      exact hne
    simp only [Writes, readOption?, Allows, hblank, htrim, hne, Bool.false_eq_true, if_false, and_true,
      Option.some.injEq]
    exact eq_comm
  | maxSentences | minWords | topN =>
    simp only [Writes, readOption?, Allows, and_true]
    exact hnatural v
  | overlapThreshold =>
    simp only [Writes, readOption?, Allows, Binary64.isFraction, Bool.and_eq_true, hchars]
    cases readDecimal text.toList <;> simp [Except.toOption]

end Setting

/-! ### All settings -/

theorem Overrides.value?_eq_bind {given : Given} {o : Overrides} (h : Overrides.ofGiven given = .ok o) (k : Setting) :
    o.value? k = (given.lookup k.optionName).bind k.readOption? := by
  have hvalue := value?_eq_ok_iff.1 (ofGiven_eq_ok_iff.1 h k)
  split at hvalue
  · next hlookup =>
    rw [hvalue, hlookup]
    rfl
  · next text hlookup =>
    obtain ⟨v, hv, hsome⟩ := hvalue
    rw [hsome, hlookup, Option.bind_some, hv]

namespace Invocation.Parts

variable {p : Parts} {around : Surroundings} {s : Settings}

/-- The text that arguments give for a setting. Behind the name of the command it counts before the other place. -/
def given? (p : Parts) (k : Setting) : Option String :=
  (p.behind.lookup k.optionName).or (p.before.lookup k.optionName)

def Settles (p : Parts) (e : Environment) (s : Settings) : Prop :=
  Settings.LogFilter.checkIn e s.logLevel = .ok () ∧ s.logLevel = (e.get? Settings.logLevelVariable).getD "info" ∧
    ∀ k : Setting, (∀ text ∈ p.before.lookup k.optionName, (k.readOption? text).isSome = true) ∧
      k.IsResolved (p.given? k) e (k.value s)

theorem value?_orElse {o q : Overrides} (ho : Overrides.ofGiven p.behind = .ok o)
    (hq : Overrides.ofGiven p.before = .ok q) (k : Setting) :
    (o.orElse q).value? k = (p.given? k).bind k.readOption? ∧
      ((o.orElse q).value? k).isSome = (p.given? k).isSome := by
  have ho' := Overrides.isSome_value?_of_ofGiven ho k
  have hq' := Overrides.isSome_value?_of_ofGiven hq k
  rw [Overrides.value?_eq_bind ho k] at ho'
  rw [Overrides.value?_eq_bind hq k] at hq'
  rw [Overrides.value?_orElse, Overrides.value?_eq_bind ho, Overrides.value?_eq_bind hq, given?]
  cases hbehind : p.behind.lookup k.optionName with
  | none => exact ⟨rfl, hq'⟩
  | some text =>
    rw [hbehind] at ho'
    obtain ⟨v, hv⟩ := Option.isSome_iff_exists.1 ho'
    simp only [hv, Option.some_or, true_and]
    rfl

/-- The settings of a run are those that its arguments and its environment settle. -/
theorem settings_iff_settles :
    (∃ o q, Overrides.ofGiven p.behind = .ok o ∧ Overrides.ofGiven p.before = .ok q ∧
      (o.orElse q).settings around = .ok s) ↔ ∃ e, around.loaded = .ok e ∧ p.Settles e s := by
  constructor
  · rintro ⟨o, q, ho, hq, hs⟩
    obtain ⟨e, given, he, hgiven, happly, hfilter⟩ := Overrides.settings_eq_ok_iff.1 hs
    obtain ⟨hallows, hlevel, hvalues⟩ := Overrides.apply_eq_ok_iff.1 happly
    obtain ⟨hgivenLevel, hset⟩ := Settings.read_eq_ok_iff_isSetTo.1 hgiven
    refine ⟨e, he, hfilter, hlevel.trans hgivenLevel, fun k => ⟨Overrides.exists_ofGiven_eq_ok_iff.1 ⟨q, hq⟩ k,
      Settings.exists_read_eq_ok_iff.1 ⟨given, hgiven⟩ k, ?_⟩⟩
    obtain ⟨hvalue, hsome⟩ := value?_orElse ho hq k
    have hallows := hallows k
    have hvalues := hvalues k
    cases htext : p.given? k with
    | none =>
      rw [hvalue, htext] at hvalues
      exact hvalues ▸ hset k
    | some text =>
      rw [htext] at hvalue hsome
      obtain ⟨v, hv⟩ := Option.isSome_iff_exists.1 hsome
      rw [hv, Option.getD_some] at hvalues
      rw [hvalues]
      exact ⟨hvalue.symm.trans hv, hallows v hv⟩
  · rintro ⟨e, he, hfilter, hlevel, h⟩
    obtain ⟨q, hq⟩ := Overrides.exists_ofGiven_eq_ok_iff.2 fun k => (h k).1
    obtain ⟨given, hgiven⟩ := Settings.exists_read_eq_ok_iff.2 fun k => (h k).2.1
    obtain ⟨hgivenLevel, hset⟩ := Settings.read_eq_ok_iff_isSetTo.1 hgiven
    have hread : ∀ (k : Setting) (text : String), p.given? k = some text →
        k.readOption? text = some (k.value s) ∧ k.Allows (k.value s) := fun k text htext => by
      have hk := (h k).2.2
      rwa [htext] at hk
    obtain ⟨o, ho⟩ := Overrides.exists_ofGiven_eq_ok_iff.2 fun k text htext => by
      rw [(hread k text (by rw [given?, htext]; rfl)).1]
      rfl
    refine ⟨o, q, ho, hq, Overrides.settings_eq_ok_iff.2 ⟨e, given, he, hgiven, Overrides.apply_eq_ok_iff.2
      ⟨fun k v hv => ?_, hlevel.trans hgivenLevel.symm, fun k => ?_⟩, hfilter⟩⟩
    · rw [(value?_orElse ho hq k).1] at hv
      obtain ⟨text, htext, hv⟩ := Option.bind_eq_some_iff.1 hv
      obtain ⟨hvalue, hallows⟩ := hread k text htext
      cases hv.symm.trans hvalue
      exact hallows
    · rw [(value?_orElse ho hq k).1]
      cases htext : p.given? k with
      | none =>
        have hk := (h k).2.2
        rw [htext] at hk
        exact hk.unique (hset k)
      | some text => rw [Option.bind_some, (hread k text htext).1, Option.getD_some]

/-! ### The option and the variable -/

/-- Without an option a variable with its value settles the same, and the other way round. -/
theorem settles_without_iff {k : Setting} {value : String} (hne : value ≠ "") (htrim : trimmed value = value)
    (hgiven : p.given? k = some value) (hbefore : ∀ text ∈ p.before.lookup k.optionName, text = value)
    {e e' : Environment} (hwithout : Lists.without k.variableName e = Lists.without k.variableName e')
    (hunset : e.get? k.variableName = none) (hset : e'.get? k.variableName = some value) :
    p.Settles e s ↔ (p.without k.optionName).Settles e' s := by
  have hlevel : e.get? Settings.logLevelVariable = e'.get? Settings.logLevelVariable :=
    get?_eq_of_without hwithout k.logLevelVariable_ne
  unfold Settles
  rw [hlevel, Settings.LogFilter.checkIn_eq_of_without hwithout]
  refine and_congr_right' (and_congr_right' (forall_congr' fun j => ?_))
  by_cases hj : j = k
  · subst hj
    have hnone : (p.without j.optionName).before.lookup j.optionName = none := lookup_without_self
    have hgivenNone : (p.without j.optionName).given? j = none := by
      rw [given?, hnone]
      simp only [Parts.without, lookup_without_self, Option.none_or]
    have hleft : ¬j.IsFaulty e := by
      rintro ⟨text, htext, -⟩
      exact nomatch hunset.symm.trans htext
    have hright : j.IsSetTo e' (j.value s) ↔ j.Writes value (j.value s) := by rw [Setting.IsSetTo, hset]
    simp only [Setting.IsResolved, hgiven, hgivenNone, hnone, hleft, hright, Setting.writes_iff hne htrim,
      not_false_eq_true, true_and, Option.not_mem_none, false_implies, implies_true]
    constructor
    · rintro ⟨-, hread, hallows⟩
      refine ⟨Setting.not_isFaulty_iff.2 ⟨_, hright.2 ?_⟩, hread, hallows⟩
      exact (Setting.writes_iff hne htrim).2 ⟨hread, hallows⟩
    · rintro ⟨-, hread, hallows⟩
      refine ⟨fun text htext => ?_, hread, hallows⟩
      rw [hbefore text htext, hread]
      rfl
  · have hoption : j.optionName ≠ k.optionName := Setting.optionName_injective.ne hj
    have hgiven : (p.without k.optionName).given? j = p.given? j := by
      simp only [given?, Parts.without, lookup_without_of_ne hoption]
    have hbefore : (p.without k.optionName).before.lookup j.optionName = p.before.lookup j.optionName :=
      lookup_without_of_ne hoption
    rw [hgiven, hbefore, Setting.isResolved_congr (get?_eq_of_without hwithout (Setting.variableName_injective.ne hj))]

end Invocation.Parts

/-! ### Runs -/

/-- Two runs end alike: both print the same, or both fail and print nothing. -/
def Outcome.Alike (o p : Outcome) : Prop :=
  o.exitCode = 0 ∧ p.exitCode = 0 ∧ o.output = p.output ∨
    o.exitCode ≠ 0 ∧ p.exitCode ≠ 0 ∧ o.output = "" ∧ p.output = ""

theorem alike_of_printed_iff {s t : Surroundings} {a b : List String}
    (h : ∀ text, run s a = .printed text ↔ run t b = .printed text) : (run s a).Alike (run t b) := by
  obtain ⟨text, hs⟩ | ⟨-, hfails⟩ := run_cases s a
  · rw [hs, (h text).1 hs]
    exact .inl ⟨rfl, rfl, rfl⟩
  · have hfails' : (run t b).exitCode ≠ 0 := fun hzero => by
      obtain ⟨text, ht⟩ := exitCode_eq_zero_iff.1 hzero
      exact hfails (exitCode_eq_zero_iff.2 ⟨text, (h text).2 ht⟩)
    exact .inr ⟨hfails, hfails', output_of_exitCode_ne hfails, output_of_exitCode_ne hfails'⟩

theorem run_eq_printed_iff_settles {around : Surroundings} {arguments : List String} {text : String} :
    run around arguments = .printed text ↔ ∃ p c e s, Invocation.scan arguments = .ok p ∧
      Command.ofGiven p.name p.behind = .ok c ∧ around.loaded = .ok e ∧ p.Settles e s ∧
        c.print s around = .ok text := by
  rw [run_eq_printed_iff]
  constructor
  · rintro ⟨i, s, hread, hs, hprint⟩
    obtain ⟨p, o, q, hscan, ho, hq, hc, hoverrides⟩ := Invocation.read_eq_ok_iff.1 hread
    rw [hoverrides] at hs
    obtain ⟨e, he, hsettles⟩ := Invocation.Parts.settings_iff_settles.1 ⟨o, q, ho, hq, hs⟩
    exact ⟨p, i.command, e, s, hscan, hc, he, hsettles, hprint⟩
  · rintro ⟨p, c, e, s, hscan, hc, he, hsettles, hprint⟩
    obtain ⟨o, q, ho, hq, hs⟩ := Invocation.Parts.settings_iff_settles.2 ⟨e, he, hsettles⟩
    exact ⟨⟨o.orElse q, c⟩, s, Invocation.read_eq_ok_iff.2 ⟨p, o, q, hscan, ho, hq, hc, rfl⟩, hs, hprint⟩

section Interchange

variable {k : Setting} {s t : Surroundings} {a b : List String} {value : String}

/-- The option among arguments is the only one of its kind. -/
theorem given?_of_scan {p : Invocation.Parts} (hscan : Invocation.scan (a ++ k.option value :: b) = .ok p)
    (hleft : ∀ argument ∈ a ++ b, ¬IsOption argument k.optionName) :
    p.given? k = some value ∧ ∀ text ∈ p.before.lookup k.optionName, text = value := by
  have hvalue : ∀ text, p.before.lookup k.optionName = some text ∨ p.behind.lookup k.optionName = some text →
      text = value := by
    intro text htext
    obtain ⟨argument, hmem, value?, hsplit, hvalue⟩ := Invocation.exists_of_lookup_of_scan hscan htext
    have hargument : argument = k.option value := by
      by_contra hne
      refine hleft argument ?_ ⟨value?, hsplit⟩
      simpa [hne] using hmem
    rw [hargument, Setting.splitOption?_option] at hsplit
    cases hsplit
    exact (hvalue value rfl).symm
  refine ⟨?_, fun text htext => hvalue text (.inl htext)⟩
  have hsome := Invocation.isSome_lookup_of_scan hscan (by simp) ⟨_, k.splitOption?_option value⟩
  obtain ⟨text, htext⟩ := Option.isSome_iff_exists.1 hsome
  obtain hbehind | ⟨-, hbefore⟩ := Option.or_eq_some_iff.1 htext
  · rw [Invocation.Parts.given?, htext, hvalue text (.inr hbehind)]
  · rw [Invocation.Parts.given?, htext, hvalue text (.inl hbefore)]

theorem run_option_iff (hbeside : s.beside k.variableName = t.beside k.variableName)
    (hfile : ∀ file ∈ s.envFile?, EnvFile.LeavesAlone file k.variableName) (hne : value ≠ "")
    (htrim : trimmed value = value) (hunset : s.environment.lookup k.variableName = none)
    (hset : t.environment.lookup k.variableName = some value.toUTF8)
    (hleft : ∀ argument ∈ a ++ b, ¬IsOption argument k.optionName) (hplace : Invocation.TakesOption a) (text : String) :
    run s (a ++ k.option value :: b) = .printed text ↔ run t (a ++ b) = .printed text := by
  rw [run_eq_printed_iff_settles, run_eq_printed_iff_settles,
    Invocation.scan_insert hplace hleft k.mem_optionNames (k.splitOption?_option value)]
  cases hscan : Invocation.scan (a ++ k.option value :: b) with
  | error fault => exact ⟨fun ⟨_, _, _, _, h, _⟩ => (nomatch h), fun ⟨_, _, _, _, h, _⟩ => (nomatch h)⟩
  | ok p =>
    obtain ⟨hgiven, hbefore⟩ := given?_of_scan hscan hleft
    obtain ⟨fault, hs, ht⟩ | ⟨e, e', hs, ht, hwithout, he, he'⟩ := Surroundings.loaded_of_beside hbeside hfile
    · rw [hs, ht]
      exact ⟨fun ⟨_, _, _, _, _, _, h, _⟩ => (nomatch h), fun ⟨_, _, _, _, _, _, h, _⟩ => (nomatch h)⟩
    have hget : e.get? k.variableName = none := by
      rw [Environment.get?, he, hunset]
      rfl
    have hsettles : ∀ x, p.Settles e x ↔ (p.without k.optionName).Settles e' x := fun x =>
      Invocation.Parts.settles_without_iff hne htrim hgiven hbefore hwithout hget (get?_of_lookup (he'.trans hset))
    have hcommand := Invocation.ofGiven_without k.mem_optionNames p.name p.behind
    constructor
    · rintro ⟨_, c, _, x, ⟨⟩, hc, he, hx, hprint⟩
      cases hs.symm.trans he
      exact ⟨_, c, e', x, rfl, hcommand.trans hc, ht, (hsettles x).1 hx, print_eq_of_beside hbeside c x ▸ hprint⟩
    · rintro ⟨_, c, _, x, hp, hc, he, hx, hprint⟩
      cases hp
      cases ht.symm.trans he
      exact ⟨p, c, e, x, rfl, hcommand.symm.trans hc, hs, (hsettles x).2 hx, print_eq_of_beside hbeside c x ▸ hprint⟩

end Interchange

/-- **An option or its variable.** Let two surroundings differ in the variable of a setting only, and let no file assign
to it or take its value into another variable. A value without blanks at its ends that is given by the option, with the
variable not set, makes a run end like one with the value in the variable and without the option. With the option in
both runs it does not matter what the variable stands for. -/
theorem option_or_variable {k : Setting} {s t : Surroundings}
    (hbeside : s.beside k.variableName = t.beside k.variableName)
    (hfile : ∀ file ∈ s.envFile?, EnvFile.LeavesAlone file k.variableName) :
    (∀ value a b, value ≠ "" → trimmed value = value → s.environment.lookup k.variableName = none →
      t.environment.lookup k.variableName = some value.toUTF8 →
      (∀ argument ∈ a ++ b, ¬IsOption argument k.optionName) → Invocation.TakesOption a →
        (run s (a ++ k.option value :: b)).Alike (run t (a ++ b))) ∧
    ∀ value arguments, k.option value ∈ arguments → ¬k.IsFaulty s.environment → ¬k.IsFaulty t.environment →
      run s arguments = run t arguments := by
  refine ⟨fun value a b hne htrim hunset hset hleft hplace => ?_, fun value arguments hmem hs ht => ?_⟩
  · exact alike_of_printed_iff (run_option_iff hbeside hfile hne htrim hunset hset hleft hplace)
  · exact run_eq_of_beside hbeside hfile hs ht hmem ⟨_, k.splitOption?_option value⟩

/-! The number of labels, with a file that sets another variable, and with one that takes the number into another
one. -/

namespace TwoLabels

/-- A folder with nothing but an environment file. -/
def unset (envFile : ByteArray) : Surroundings := .ofFolder (.ofList [(".env", envFile)]) [] .empty

def set (envFile : ByteArray) : Surroundings :=
  { unset envFile with environment := [(Settings.topNVariable, "2".toUTF8)] }

theorem envFile?_unset (envFile : ByteArray) : (unset envFile).envFile? = some envFile := by
  have hplain : ∀ name ∈ [".env"], Folder.IsPlain name := by decide
  have hfiles : ∀ file ∈ [([".env"], envFile)], file.1 ≠ [] ∧ ∀ name ∈ file.1, Folder.IsPlain name :=
    List.forall_mem_singleton.2 ⟨List.cons_ne_nil _ _, hplain⟩
  have hread := (Folder.read?_ofList hfiles (List.cons_ne_nil _ _) hplain).trans List.lookup_cons_self
  have hpath : "/".intercalate [".env"] = ".env" := by decide
  rwa [List.map_singleton, Folder.atPath, hpath] at hread

theorem beside_eq (envFile : ByteArray) :
    (unset envFile).beside Settings.topNVariable = (set envFile).beside Settings.topNVariable := by
  simp [Surroundings.beside, Surroundings.ofFolder, set, unset]

/-- A file that sets another variable. -/
def logFile : ByteArray := "FINTHESIS_LOG_LEVEL=warn\n".toUTF8

theorem leavesAlone_logFile : EnvFile.LeavesAlone logFile Settings.topNVariable := by
  have hlines : EnvFile.assignments logFile = [some "FINTHESIS_LOG_LEVEL=warn".toList] := by decide +kernel
  have hread : ∀ value, EnvFile.readLine? value "FINTHESIS_LOG_LEVEL=warn".toList =
      some (some ("FINTHESIS_LOG_LEVEL", "warn")) := fun _ => rfl
  have hname : Settings.topNVariable ≠ "FINTHESIS_LOG_LEVEL" := by decide
  intro line hline
  rw [hlines] at hline
  rw [Option.some.inj (List.mem_singleton.1 hline)]
  constructor
  · rintro ⟨value, text, h⟩
    rw [hread, Option.some.injEq, Option.some.injEq, Prod.mk.injEq] at h
    exact hname h.1.symm
  · rintro ⟨value, other, -, h⟩
    exact h ((hread value).trans (hread other).symm)

theorem option_or_variable_with_two_labels :
    (run (unset logFile) ["structure", "--summary", "x", "--top-n=2"]).Alike
        (run (set logFile) ["structure", "--summary", "x"]) ∧
      run (unset logFile) ["structure", "--summary", "x", "--top-n=2"] =
        run (set logFile) ["structure", "--summary", "x", "--top-n=2"] := by
  have hfile : ∀ file ∈ (unset logFile).envFile?, EnvFile.LeavesAlone file Setting.topN.variableName :=
    fun _ hmem => Option.some.inj ((envFile?_unset logFile).symm.trans hmem) ▸ leavesAlone_logFile
  have hoption : Setting.topN.option "2" = "--top-n=2" := by decide +kernel
  have hunset : ¬Setting.topN.IsFaulty (unset logFile).environment :=
    Setting.not_isFaulty_iff.2 ⟨3, Settings.readSetting_eq_ok_iff.1 (by decide +kernel)⟩
  have hset : ¬Setting.topN.IsFaulty (set logFile).environment :=
    Setting.not_isFaulty_iff.2 ⟨2, Settings.readSetting_eq_ok_iff.1 (by decide +kernel)⟩
  have hleft : ∀ argument ∈ ["structure", "--summary", "x"] ++ [], ¬IsOption argument Setting.topN.optionName := by
    have hsummary : (splitOption? "--summary".toList).map Prod.fst = some "summary" := by decide
    have hname : Setting.topN.optionName ≠ "summary" := by decide
    simp only [List.append_nil, List.mem_cons, List.not_mem_nil, or_false, forall_eq_or_imp, forall_eq]
    refine ⟨?_, ?_, ?_⟩ <;> rintro ⟨value?, h⟩
    · exact nomatch h
    · rw [h] at hsummary
      exact hname (Option.some.inj hsummary)
    · exact nomatch h
  have hplace : Invocation.TakesOption ["structure", "--summary", "x"] := by
    refine ⟨by decide, fun last hlast name _ h => ?_⟩
    cases Option.some.inj hlast
    exact nomatch h
  have h := option_or_variable (k := Setting.topN) (beside_eq logFile) hfile
  have halike := h.1 "2" ["structure", "--summary", "x"] [] (by decide) (by decide +kernel) rfl
    (by simp [set, Setting.variableName]) hleft hplace
  have hsame := h.2 "2" ["structure", "--summary", "x", Setting.topN.option "2"] (by simp) hunset hset
  rw [hoption] at halike hsame
  exact ⟨halike, hsame⟩

/-- A file that takes the number into another variable. Where the number is not set, the other one is faulty. -/
def takingFile : ByteArray := "FINTHESIS_MAX_SENTENCES=$\x7bFINTHESIS_TOP_N\x7d\n".toUTF8

theorem not_alike_where_taken :
    (∀ line, some line ∈ EnvFile.assignments takingFile → ¬EnvFile.Assigns line Settings.topNVariable) ∧
      (unset takingFile).beside Settings.topNVariable = (set takingFile).beside Settings.topNVariable ∧
      (unset takingFile).environment.lookup Settings.topNVariable = none ∧
      (set takingFile).environment.lookup Settings.topNVariable = some "2".toUTF8 ∧
      (run (unset takingFile) ["structure", "--summary", "x", "--top-n=2"]).exitCode = 1 ∧
      (run (set takingFile) ["structure", "--summary", "x"]).exitCode = 0 ∧
      ¬(run (unset takingFile) ["structure", "--summary", "x", "--top-n=2"]).Alike
        (run (set takingFile) ["structure", "--summary", "x"]) := by
  have hfailed : (run (unset takingFile) ["structure", "--summary", "x", "--top-n=2"]).exitCode = 1 := by
    decide +kernel
  have hprinted : (run (set takingFile) ["structure", "--summary", "x"]).exitCode = 0 := by decide +kernel
  have hlines : EnvFile.assignments takingFile =
      [some "FINTHESIS_MAX_SENTENCES=$\x7bFINTHESIS_TOP_N\x7d".toList] := by decide +kernel
  have hname : Settings.topNVariable ≠ "FINTHESIS_MAX_SENTENCES" := by decide
  refine ⟨fun line hline => ?_, beside_eq takingFile, rfl, by simp [set], hfailed, hprinted, ?_⟩
  · rw [hlines] at hline
    rw [Option.some.inj (List.mem_singleton.1 hline)]
    rintro ⟨value, text, h⟩
    have htarget : (EnvFile.readLine? value "FINTHESIS_MAX_SENTENCES=$\x7bFINTHESIS_TOP_N\x7d".toList).map
        (·.map (·.1)) = some (some "FINTHESIS_MAX_SENTENCES") := rfl
    rw [h, Option.map_some, Option.map_some, Option.some.injEq, Option.some.injEq] at htarget
    exact hname htarget
  · rintro (⟨hzero, -⟩ | ⟨-, hnonzero, -⟩)
    · rw [hfailed] at hzero
      exact nomatch hzero
    · exact hnonzero hprinted

end TwoLabels

end MarketBrief
