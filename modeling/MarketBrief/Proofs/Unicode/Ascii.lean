import Mathlib
import MarketBrief.Proofs.Unicode.Class

/-!
# The case of ASCII letters

`Char.toLower` makes the capital letters of ASCII small and leaves every other character as it is. To see that a function
ignores the case of ASCII letters there are 26 characters to go through.

* `IgnoresCase`, `ignoresCase_of_capitals`: functions for which an ASCII letter and its small form are the same;
* `toLower_eq_iff`: what the small form of a character is the same as;
* `lower_map_toLower`: the lowercase mapping of a text ignores the case of its ASCII letters, also where they stand next
  to a capital sigma.
-/

namespace MarketBrief.Unicode

/-! ### Functions of one character -/

/-- The capital letters of ASCII. -/
def capitals : Run := ⟨0x41, 0x5A, 1⟩

/-- The function gives for the small form of an ASCII letter what it gives for the letter. -/
def IgnoresCase {α : Type} (f : Char → α) : Prop := ∀ c : Char, f c.toLower = f c

theorem has_capitals_of_isUpper {c : Char} (h : c.isUpper = true) : capitals.has c.toNat = true := by
  obtain ⟨hfirst, hlast⟩ : 'A'.val ≤ c.val ∧ c.val ≤ 'Z'.val := by simpa [Char.isUpper] using h
  have hrange : (decide (0x41 ≤ c.toNat) && decide (c.toNat ≤ 0x5A)) = true :=
    Bool.and_eq_true_iff.2 ⟨decide_eq_true hfirst, decide_eq_true hlast⟩
  exact Bool.and_eq_true_iff.2 ⟨hrange, beq_iff_eq.2 (Nat.mod_one _)⟩

theorem ignoresCase_of_capitals {α : Type} {f : Char → α}
    (h : ∀ n ∈ capitals.points, f (Char.ofNat n).toLower = f (Char.ofNat n)) : IgnoresCase f := by
  intro c
  by_cases hupper : c.isUpper = true
  · have hpoint := h c.toNat (Run.mem_points_of_has (has_capitals_of_isUpper hupper))
    rwa [Char.ofNat_toNat] at hpoint
  · rw [Char.toLower_eq_of_not_isUpper hupper]

/-- Of the characters that are no capital letters, each is the small form of itself and of its capital. -/
theorem toLower_eq_iff {c p : Char} (hp : p.toLower = p) : c.toLower = p ↔ c = p ∨ c = p.toUpper := by
  constructor
  · intro h
    by_cases hupper : c.isUpper = true
    · have hself : c.toUpper = c := Char.toUpper_eq_of_not_isLower (Char.not_isLower_of_isUpper hupper)
      rw [← h, Char.toUpper_toLower_eq_toUpper, hself]
      exact Or.inr rfl
    · rw [Char.toLower_eq_of_not_isUpper hupper] at h
      exact Or.inl h
  · rintro (rfl | rfl)
    · exact hp
    · rw [Char.toLower_toUpper_eq_toLower, hp]

/-- Other characters than letters of ASCII are the small form of themselves alone. -/
theorem toLower_eq_iff_of_caseless {c p : Char} (hlower : p.toLower = p) (hupper : p.toUpper = p) :
    c.toLower = p ↔ c = p := by
  rw [toLower_eq_iff hlower, hupper, or_self]

theorem IgnoresCase.dropWhile_map {P : Char → Bool} (h : IgnoresCase P) (cs : List Char) :
    (cs.map Char.toLower).dropWhile P = (cs.dropWhile P).map Char.toLower := by
  rw [List.dropWhile_map, show P ∘ Char.toLower = P from funext h]

/-! ### The lowercase mapping -/

/-- What the mapping asks of a character: whether it is cased, whether it is case-ignorable, and its form. -/
theorem ignoresCase_tables : IgnoresCase fun c => (isCased c, isCaseIgnorable c, lowerChar c) :=
  ignoresCase_of_capitals (by decide +kernel)

theorem ignoresCase_isCased : IgnoresCase isCased := fun c => congrArg (·.1) (ignoresCase_tables c)

theorem ignoresCase_isCaseIgnorable : IgnoresCase isCaseIgnorable := fun c => congrArg (·.2.1) (ignoresCase_tables c)

theorem ignoresCase_lowerChar : IgnoresCase lowerChar := fun c => congrArg (·.2.2) (ignoresCase_tables c)

theorem meetsCased_map_toLower (cs : List Char) : meetsCased (cs.map Char.toLower) = meetsCased cs := by
  rw [meetsCased, ignoresCase_isCaseIgnorable.dropWhile_map, List.head?_map, Option.any_map,
    show (fun c => isCased (Char.toLower c)) = isCased from funext ignoresCase_isCased, meetsCased]

theorem lowerAfter_map_toLower (before cs : List Char) :
    lowerAfter (before.map Char.toLower) (cs.map Char.toLower) = lowerAfter before cs := by
  -- a sigma looks to both sides, so what has been read is mapped as well
  induction cs generalizing before with
  | nil => rfl
  | cons c cs ih =>
    have hsigma : endsWordAsSigma (before.map Char.toLower) (cs.map Char.toLower) = endsWordAsSigma before cs := by
      rw [endsWordAsSigma, meetsCased_map_toLower, meetsCased_map_toLower, endsWordAsSigma]
    have hiff : c.toLower = '\u03a3' ↔ c = '\u03a3' := toLower_eq_iff_of_caseless (by decide) (by decide)
    have hrest := ih (c :: before)
    rw [List.map_cons] at hrest
    rw [List.map_cons, lowerAfter, lowerAfter, hsigma, ignoresCase_lowerChar, hrest]
    simp only [hiff]

/-- In lowercase nothing is left of the case of ASCII letters. -/
theorem lower_map_toLower (cs : List Char) : lower (cs.map Char.toLower) = lower cs := lowerAfter_map_toLower [] cs

end MarketBrief.Unicode
