import MarketBrief.Proofs.Command.Run
import MarketBrief.Proofs.Settings.Environment

/-!
# The settings of a run

* `Setting.readOption?`, `Overrides.value?`: what an option stands for, and what overrides give;
* `ofGiven_eq_ok_iff`, `value?_orElse`, `apply_eq_ok_iff`: overrides from options, from two places, and applied;
* `settings_eq_ok_iff`: the settings of a run, from those of its environment and its overrides.
-/

namespace MarketBrief

open Number Command

/-! ### Options -/

namespace Setting

def optionName : Setting → String
  | categories => "categories"
  | maxSentences => "max-sentences"
  | minWords => "min-words"
  | topN => "top-n"
  | overlapThreshold => "overlap-threshold"

/-- What a text behind an option stands for. Any number is read as a threshold; its range is looked at later. -/
def readOption? : (k : Setting) → String → Option k.Value
  | categories, text => if text = "" then none else some (some text)
  | maxSentences, text => (readNatural text.toList).toOption
  | minWords, text => (readNatural text.toList).toOption
  | topN, text => (readNatural text.toList).toOption
  | overlapThreshold, text => (readDecimal text.toList).toOption

/-- The values that a setting may take. -/
def Allows : (k : Setting) → k.Value → Prop
  | overlapThreshold, x => x.isFraction = true
  | _, _ => True

theorem optionName_injective : Function.Injective optionName := by
  intro j k h
  revert h
  cases j <;> cases k <;> decide

theorem mem_optionNames (k : Setting) : k.optionName ∈ Overrides.optionNames := by cases k <;> decide

end Setting

/-! ### Overrides -/

namespace Overrides

def value? (o : Overrides) : (k : Setting) → Option k.Value
  | .categories => o.categoriesPath?.map some
  | .maxSentences => o.maxSentences?
  | .minWords => o.minWords?
  | .topN => o.topN?
  | .overlapThreshold => o.overlapThreshold?

theorem value?_orElse (o p : Overrides) (k : Setting) : (o.orElse p).value? k = (o.value? k).or (p.value? k) := by
  obtain ⟨path?, _, _, _, _⟩ := o
  cases k with
  | categories => cases path? <;> rfl
  | maxSentences | minWords | topN | overlapThreshold => rfl

theorem value?_eq_ok_iff {α : Type} {given : Given} {name : String} {read? : String → Option α} {a? : Option α} :
    given.value? name read? = .ok a? ↔
      match given.lookup name with
      | none => a? = none
      | some text => ∃ a, read? text = some a ∧ a? = some a := by
  unfold Given.value?
  cases given.lookup name with
  | none => simp [eq_comm]
  | some text =>
    simp only
    cases read? text with
    | none => simp
    | some a => simp [eq_comm]

theorem path?_eq_ok_iff {given : Given} {path? : Option String} :
    given.path? "categories" = .ok path? ↔
      given.value? "categories" Setting.categories.readOption? = .ok (path?.map some) := by
  rw [Given.path?, value?_eq_ok_iff, value?_eq_ok_iff]
  cases given.lookup "categories" with
  | none => simp
  | some text =>
    by_cases htext : text = ""
    · simp [Setting.readOption?, htext]
    · simp [Setting.readOption?, htext]

theorem exists_path?_of_value? {given : Given} {v? : Option (Option String)}
    (h : given.value? "categories" Setting.categories.readOption? = .ok v?) :
    ∃ path? : Option String, v? = path?.map some := by
  rw [value?_eq_ok_iff] at h
  split at h
  · exact ⟨none, h⟩
  · obtain ⟨v, hv, rfl⟩ := h
    simp only [Setting.readOption?, Option.ite_none_left_eq_some, Option.some.injEq] at hv
    exact ⟨some _, by rw [← hv.2]; rfl⟩

/-- Every option gives its setting what it stands for. -/
theorem ofGiven_eq_ok_iff {given : Given} {o : Overrides} :
    ofGiven given = .ok o ↔ ∀ k : Setting, given.value? k.optionName k.readOption? = .ok (o.value? k) := by
  simp only [ofGiven, bind_eq_ok_iff, pure_eq_ok_iff, Setting.forall_iff]
  constructor
  · rintro ⟨path?, hpath, n?, hn, x?, hx, m?, hm, t?, ht, rfl⟩
    exact ⟨path?_eq_ok_iff.1 hpath, hn, hm, ht, hx⟩
  · rintro ⟨hpath, hn, hm, ht, hx⟩
    exact ⟨_, path?_eq_ok_iff.2 hpath, _, hn, _, hx, _, hm, _, ht, rfl⟩

theorem isSome_value?_of_ofGiven {given : Given} {o : Overrides} (h : ofGiven given = .ok o) (k : Setting) :
    (o.value? k).isSome = (given.lookup k.optionName).isSome := by
  have hvalue := value?_eq_ok_iff.1 (ofGiven_eq_ok_iff.1 h k)
  split at hvalue
  · next hlookup =>
    rw [hvalue, hlookup]
    rfl
  · next text hlookup =>
    obtain ⟨v, -, hv⟩ := hvalue
    rw [hv, hlookup]
    rfl

theorem exists_value?_eq_ok_iff {given : Given} (k : Setting) :
    (∃ v?, given.value? k.optionName k.readOption? = .ok v?) ↔
      ∀ text ∈ given.lookup k.optionName, (k.readOption? text).isSome = true := by
  simp only [value?_eq_ok_iff, Option.isSome_iff_exists]
  cases given.lookup k.optionName with
  | none => simp
  | some text => simp

theorem exists_ofGiven_eq_ok_iff {given : Given} :
    (∃ o, ofGiven given = .ok o) ↔
      ∀ k : Setting, ∀ text ∈ given.lookup k.optionName, (k.readOption? text).isSome = true := by
  simp only [ofGiven_eq_ok_iff, ← exists_value?_eq_ok_iff]
  constructor
  · exact fun ⟨o, h⟩ k => ⟨_, h k⟩
  · intro h
    rw [Setting.forall_iff] at h
    obtain ⟨⟨v?, hv⟩, ⟨n?, hn⟩, ⟨m?, hm⟩, ⟨t?, ht⟩, ⟨x?, hx⟩⟩ := h
    obtain ⟨path?, rfl⟩ := exists_path?_of_value? hv
    exact ⟨⟨path?, n?, x?, m?, t?⟩, Setting.forall_iff.2 ⟨hv, hn, hm, ht, hx⟩⟩

/-- Overrides take the place of settings, if the threshold that they give is in range. -/
theorem apply_eq_ok_iff {o : Overrides} {s t : Settings} :
    o.apply s = .ok t ↔ (∀ k : Setting, ∀ v ∈ o.value? k, k.Allows v) ∧ t.logLevel = s.logLevel ∧
      ∀ k : Setting, k.value t = (o.value? k).getD (k.value s) := by
  have hpath : (o.categoriesPath?.map some).getD s.categoriesPath? = o.categoriesPath?.or s.categoriesPath? := by
    cases o.categoriesPath? <;> rfl
  obtain ⟨level, path?, n, x, m, top⟩ := t
  simp only [Setting.forall_iff, Setting.Allows, implies_true, true_and, Setting.value, value?, hpath]
  unfold apply
  cases o.overlapThreshold? with
  | none =>
    simp only [pure_bind, pure_eq_ok_iff, Settings.mk.injEq, Option.getD_none, Option.not_mem_none, false_implies,
      implies_true, true_and]
    constructor
    · rintro ⟨rfl, rfl, rfl, rfl, rfl, rfl⟩
      exact ⟨rfl, rfl, rfl, rfl, rfl, rfl⟩
    · rintro ⟨rfl, rfl, rfl, rfl, rfl, rfl⟩
      exact ⟨rfl, rfl, rfl, rfl, rfl, rfl⟩
  | some y =>
    simp only [bind_eq_ok_iff, pure_eq_ok_iff, Settings.checkThreshold_eq_ok_iff, Settings.mk.injEq, Option.getD_some,
      Option.mem_some_iff, forall_eq']
    constructor
    · rintro ⟨_, ⟨rfl, hy⟩, rfl, rfl, rfl, rfl, rfl, rfl⟩
      exact ⟨hy, rfl, rfl, rfl, rfl, rfl, rfl⟩
    · rintro ⟨hy, rfl, rfl, rfl, rfl, rfl, rfl⟩
      exact ⟨_, ⟨rfl, hy⟩, rfl, rfl, rfl, rfl, rfl, rfl⟩

theorem settings_eq_ok_iff {o : Overrides} {around : Surroundings} {s : Settings} :
    o.settings around = .ok s ↔ ∃ e given, around.loaded = .ok e ∧ Settings.read e = .ok given ∧ o.apply given = .ok s ∧
      Settings.LogFilter.checkIn e s.logLevel = .ok () := by
  simp only [Overrides.settings, bind_eq_ok_iff, mapError_eq_ok_iff, pure_eq_ok_iff]
  constructor
  · rintro ⟨e, he, given, hgiven, _, happly, ⟨⟩, hfilter, rfl⟩
    exact ⟨e, given, he, hgiven, happly, hfilter⟩
  · rintro ⟨e, given, he, hgiven, happly, hfilter⟩
    exact ⟨e, he, given, hgiven, s, happly, (), hfilter, rfl⟩

end Overrides

end MarketBrief
