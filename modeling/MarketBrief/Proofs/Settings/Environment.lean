import MarketBrief.Proofs.Except
import MarketBrief.Proofs.Number.Natural
import MarketBrief.Proofs.Text.Lowered
import MarketBrief.Settings.Basic

/-!
# Settings from an environment

* `Setting`: the settings that arguments may give as well, each with its variable;
* `Setting.Writes`: what the text in a variable stands for;
* `Setting.IsSetTo`, `Setting.IsFaulty`: the value that an environment gives a setting, and variables that give none;
* `read_eq_ok_iff`, `not_isFaulty_iff`: reading gives every setting its value, unless a variable is faulty;
* `read_all_or_first_fault`: all settings are read, or the first fault is reported.
-/

namespace MarketBrief

open Number Text

/-! ### Texts in variables -/

theorem fromUTF8?_toUTF8 (text : String) : String.fromUTF8? text.toUTF8 = some text := by
  unfold String.fromUTF8?
  rw [String.toUTF8_eq_toByteArray, dif_pos text.isValidUTF8]
  rfl

theorem get?_of_lookup {e : Environment} {name text : String} (h : e.lookup name = some text.toUTF8) :
    e.get? name = some text := by
  rw [Environment.get?, h]
  exact fromUTF8?_toUTF8 text

theorem get?_congr {e e' : Environment} {name : String} (h : e.lookup name = e'.lookup name) :
    e.get? name = e'.get? name := by
  rw [Environment.get?, h, Environment.get?]

/-! ### Settings and their variables -/

/-- The settings that variables and arguments give. -/
inductive Setting where
  | categories
  | maxSentences
  | minWords
  | topN
  | overlapThreshold
  deriving DecidableEq

namespace Setting

abbrev Value : Setting → Type
  | categories => Option String
  | maxSentences => Nat
  | minWords => Nat
  | topN => Nat
  | overlapThreshold => Binary64

/-- The value of a setting among others. -/
def value : (k : Setting) → Settings → k.Value
  | categories => Settings.categoriesPath?
  | maxSentences => Settings.maxSentences
  | minWords => Settings.minSentenceWords
  | topN => Settings.topN
  | overlapThreshold => Settings.overlapThreshold

def variableName : Setting → String
  | categories => Settings.categoriesPathVariable
  | maxSentences => Settings.maxSentencesVariable
  | minWords => Settings.minSentenceWordsVariable
  | topN => Settings.topNVariable
  | overlapThreshold => Settings.overlapThresholdVariable

/-- What a text in a variable stands for. Blanks around it do not count, and a path of blanks is no path. -/
def Writes : (k : Setting) → String → k.Value → Prop
  | categories, text, path? => path? = if isBlankText text then none else some (trimmed text)
  | maxSentences, text, n => IsNumeral (trim text.toList) n
  | minWords, text, n => IsNumeral (trim text.toList) n
  | topN, text, n => IsNumeral (trim text.toList) n
  | overlapThreshold, text, x => readDecimal (trim text.toList) = .ok x ∧ Binary64.zero.le x = true ∧ x.le .one = true

/-- The value that an environment gives: what the variable stands for, or the default if it is not set to a text. -/
def IsSetTo (k : Setting) (e : Environment) (v : k.Value) : Prop :=
  match e.get? k.variableName with
  | none => v = k.value {}
  | some text => k.Writes text v

/-- The variable is set to a text that stands for nothing. -/
def IsFaulty (k : Setting) (e : Environment) : Prop :=
  ∃ text, e.get? k.variableName = some text ∧ ∀ v, ¬k.Writes text v

/-- The order in which variables are checked. Any text stands for a path or none. -/
def checked : List Setting := [maxSentences, minWords, topN, overlapThreshold]

theorem forall_iff {P : Setting → Prop} :
    (∀ k, P k) ↔ P categories ∧ P maxSentences ∧ P minWords ∧ P topN ∧ P overlapThreshold := by
  constructor
  · exact fun h => ⟨h _, h _, h _, h _, h _⟩
  · rintro ⟨_, _, _, _, _⟩ k
    cases k <;> assumption

theorem not_isFaulty_iff {k : Setting} {e : Environment} : ¬k.IsFaulty e ↔ ∃ v, k.IsSetTo e v := by
  unfold IsFaulty IsSetTo
  cases e.get? k.variableName with
  | none => simp
  | some text => simp

theorem not_isFaulty_categories (e : Environment) : ¬Setting.categories.IsFaulty e :=
  fun ⟨_, _, h⟩ => h _ rfl

end Setting

/-! ### One variable -/

namespace Settings

open Setting

theorem readCount_eq_ok_iff {text : String} {n : Nat} : readCount text = .ok n ↔ IsNumeral (trim text.toList) n := by
  rw [readCount, mapError_eq_ok_iff, readNatural_eq_ok_iff]

theorem checkThreshold_eq_ok_iff {x y : Binary64} : checkThreshold x = .ok y ↔ y = x ∧ x.isFraction = true := by
  unfold checkThreshold
  split
  · next h => simp [h, eq_comm]
  · next h => simp [h]

theorem readThreshold_eq_ok_iff {text : String} {x : Binary64} :
    readThreshold text = .ok x ↔ Setting.overlapThreshold.Writes text x := by
  simp only [readThreshold, bind_eq_ok_iff, mapError_eq_ok_iff, checkThreshold_eq_ok_iff, Writes,
    Binary64.isFraction, Bool.and_eq_true]
  constructor
  · rintro ⟨y, hread, rfl, hle⟩
    exact ⟨hread, hle⟩
  · rintro ⟨hread, hle⟩
    exact ⟨x, hread, rfl, hle⟩

section Variable

variable {α : Type} {e : Environment} {name : String} {read : String → Except Reason α} {default : α}

theorem readVariable_eq_ok_iff {v : α} :
    readVariable e name read default = .ok v ↔
      match e.get? name with
      | none => v = default
      | some text => read text = .ok v := by
  unfold readVariable
  cases e.get? name with
  | none => simp [eq_comm]
  | some text => exact mapError_eq_ok_iff

theorem readVariable_eq_error_iff {fault : InvalidVariable} :
    readVariable e name read default = .error fault ↔
      ∃ text, e.get? name = some text ∧ read text = .error fault.reason ∧ fault.name = name := by
  unfold readVariable
  cases e.get? name with
  | none => simp
  | some text =>
    rw [mapError_eq_error_iff]
    constructor
    · rintro ⟨reason, hread, rfl⟩
      exact ⟨text, rfl, hread, rfl⟩
    · rintro ⟨text', htext, hread, hname⟩
      cases htext
      exact ⟨fault.reason, hread, by rw [← hname]⟩

end Variable

def readSetting (e : Environment) : (k : Setting) → Except InvalidVariable k.Value
  | .categories => .ok (((e.get? categoriesPathVariable).map trimmed).filter (· ≠ ""))
  | .maxSentences => readVariable e maxSentencesVariable readCount ({} : Settings).maxSentences
  | .minWords => readVariable e minSentenceWordsVariable readCount ({} : Settings).minSentenceWords
  | .topN => readVariable e topNVariable readCount ({} : Settings).topN
  | .overlapThreshold => readVariable e overlapThresholdVariable readThreshold ({} : Settings).overlapThreshold

theorem read_eq_readSetting (e : Environment) :
    read e = do
      let maxSentences ← readSetting e .maxSentences
      let minSentenceWords ← readSetting e .minWords
      let topN ← readSetting e .topN
      let overlapThreshold ← readSetting e .overlapThreshold
      return {
        logLevel := (e.get? logLevelVariable).getD ({} : Settings).logLevel
        categoriesPath? := ((e.get? categoriesPathVariable).map trimmed).filter (· ≠ "")
        maxSentences, overlapThreshold, minSentenceWords, topN } := rfl

theorem readSetting_eq_ok_iff {e : Environment} {k : Setting} {v : k.Value} :
    readSetting e k = .ok v ↔ k.IsSetTo e v := by
  unfold IsSetTo
  cases k with
  | categories =>
    simp only [readSetting, Writes, variableName, value, Except.ok.injEq]
    cases e.get? categoriesPathVariable with
    | none => exact eq_comm
    | some text =>
      by_cases hblank : isBlankText text = true
      · have hempty : trimmed text = "" := trimmed_eq_empty_iff.2 hblank
        simp [hblank, hempty, Option.filter, eq_comm]
      · have hpath : trimmed text ≠ "" := mt trimmed_eq_empty_iff.1 hblank
        simp [hblank, hpath, Option.filter, eq_comm]
  | maxSentences | minWords | topN =>
    simp only [readSetting, readVariable_eq_ok_iff, readCount_eq_ok_iff, Writes, variableName, value]
  | overlapThreshold =>
    simp only [readSetting, readVariable_eq_ok_iff, readThreshold_eq_ok_iff, variableName, value]

theorem readSetting_eq_error {e : Environment} {k : Setting} {fault : InvalidVariable}
    (h : readSetting e k = .error fault) : fault.name = k.variableName ∧ k.IsFaulty e := by
  have hfaulty : k.IsFaulty e := by
    by_contra hno
    obtain ⟨v, hv⟩ := not_isFaulty_iff.1 hno
    rw [readSetting_eq_ok_iff.2 hv] at h
    exact nomatch h
  refine ⟨?_, hfaulty⟩
  cases k with
  | categories => exact absurd hfaulty (not_isFaulty_categories e)
  | maxSentences | minWords | topN | overlapThreshold =>
    obtain ⟨-, -, -, hname⟩ := readVariable_eq_error_iff.1 h
    exact hname

/-! ### All variables -/

/-- Reading gives every setting its value. -/
theorem read_eq_ok_iff_isSetTo {e : Environment} {s : Settings} :
    read e = .ok s ↔ s.logLevel = (e.get? logLevelVariable).getD "info" ∧ ∀ k : Setting, k.IsSetTo e (k.value s) := by
  simp only [read_eq_readSetting, bind_eq_ok_iff, pure_eq_ok_iff, Setting.forall_iff, ← readSetting_eq_ok_iff]
  constructor
  · rintro ⟨n, hn, m, hm, t, ht, x, hx, rfl⟩
    exact ⟨rfl, rfl, hn, hm, ht, hx⟩
  · rintro ⟨hlevel, hpath, hn, hm, ht, hx⟩
    refine ⟨_, hn, _, hm, _, ht, _, hx, ?_⟩
    obtain ⟨level, path?, n, x, m, t⟩ := s
    cases hlevel
    cases hpath
    rfl

theorem exists_read_eq_ok_iff {e : Environment} : (∃ s, read e = .ok s) ↔ ∀ k : Setting, ¬k.IsFaulty e := by
  simp only [read_eq_ok_iff_isSetTo, not_isFaulty_iff]
  constructor
  · exact fun ⟨s, _, h⟩ k => ⟨_, h k⟩
  · intro h
    rw [Setting.forall_iff] at h
    obtain ⟨⟨path?, hpath⟩, ⟨n, hn⟩, ⟨m, hm⟩, ⟨t, ht⟩, ⟨x, hx⟩⟩ := h
    exact ⟨⟨_, path?, n, x, m, t⟩, rfl, Setting.forall_iff.2 ⟨hpath, hn, hm, ht, hx⟩⟩

/-- The first setting in the order of checks whose variable is faulty. -/
def IsFirstFaulty (e : Environment) (k : Setting) : Prop :=
  ∃ before behind, checked = before ++ k :: behind ∧ k.IsFaulty e ∧ ∀ j ∈ before, ¬j.IsFaulty e

theorem isFirstFaulty_of_read {e : Environment} {fault : InvalidVariable} (h : read e = .error fault) :
    ∃ k, IsFirstFaulty e k ∧ fault.name = k.variableName := by
  have hok : ∀ {k : Setting} {v : k.Value}, readSetting e k = .ok v → ¬k.IsFaulty e :=
    fun hv => not_isFaulty_iff.2 ⟨_, readSetting_eq_ok_iff.1 hv⟩
  rw [read_eq_readSetting] at h
  obtain h | ⟨n, hn, h⟩ := bind_eq_error_iff.1 h
  · obtain ⟨hname, hfaulty⟩ := readSetting_eq_error h
    exact ⟨_, ⟨[], _, rfl, hfaulty, by simp⟩, hname⟩
  obtain h | ⟨m, hm, h⟩ := bind_eq_error_iff.1 h
  · obtain ⟨hname, hfaulty⟩ := readSetting_eq_error h
    exact ⟨_, ⟨[.maxSentences], _, rfl, hfaulty, by simp [hok hn]⟩, hname⟩
  obtain h | ⟨t, ht, h⟩ := bind_eq_error_iff.1 h
  · obtain ⟨hname, hfaulty⟩ := readSetting_eq_error h
    exact ⟨_, ⟨[.maxSentences, .minWords], _, rfl, hfaulty, by simp [hok hn, hok hm]⟩, hname⟩
  obtain h | ⟨x, hx, h⟩ := bind_eq_error_iff.1 h
  · obtain ⟨hname, hfaulty⟩ := readSetting_eq_error h
    exact ⟨_, ⟨[.maxSentences, .minWords, .topN], _, rfl, hfaulty, by simp [hok hn, hok hm, hok ht]⟩, hname⟩
  · exact nomatch h

/-- **All or the first fault.** An environment gives settings exactly if no variable is faulty; each setting then has
the value that its variable stands for, or its default. Otherwise the fault is that of the first faulty variable. -/
theorem read_all_or_first_fault (e : Environment) :
    ((∃ s, read e = .ok s) ↔ ∀ k : Setting, ¬k.IsFaulty e) ∧
    (∀ s, read e = .ok s ↔
      s.logLevel = (e.get? logLevelVariable).getD "info" ∧ ∀ k : Setting, k.IsSetTo e (k.value s)) ∧
    ∀ fault, read e = .error fault → ∃ k, IsFirstFaulty e k ∧ fault.name = k.variableName :=
  ⟨exists_read_eq_ok_iff, fun _ => read_eq_ok_iff_isSetTo, fun _ => isFirstFaulty_of_read⟩

end Settings

end MarketBrief
