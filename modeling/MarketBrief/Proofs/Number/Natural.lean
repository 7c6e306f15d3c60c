import Mathlib.Data.Nat.Digits.Defs
import MarketBrief.Number.Natural

/-!
# Numerals

* `AreDigits`, `IsNumeral`: the grammar of whole numbers, and the numbers that they denote;
* `digitsAfter`, `readDigitsAfter_eq_ok_iff`: digits behind a number already read;
* `readNatural_eq_ok_iff`: the texts that are read are the numerals.
-/

namespace MarketBrief.Number

/-! ### The grammar -/

/-- Decimal digits, at least one, that write `n`. Zeros may lead; `n` has at most 64 bits. -/
structure AreDigits (digits : List Char) (n : Nat) : Prop where
  ne_nil : digits ≠ []
  between : ∀ c ∈ digits, '0' ≤ c ∧ c ≤ '9'
  eq_ofDigits : n = Nat.ofDigits 10 (digits.map digitValue).reverse
  le_max : n ≤ 18446744073709551615

/-- The texts that write `n`: its digits, with a plus sign before them or not. -/
def IsNumeral (cs : List Char) (n : Nat) : Prop :=
  ∃ sign digits, cs = sign ++ digits ∧ (sign = [] ∨ sign = ['+']) ∧ AreDigits digits n

theorem isNumeral_iff {cs : List Char} {n : Nat} :
    IsNumeral cs n ↔ AreDigits cs n ∨ ∃ digits, cs = '+' :: digits ∧ AreDigits digits n := by
  constructor
  · rintro ⟨sign, digits, rfl, rfl | rfl, h⟩
    · exact .inl h
    · exact .inr ⟨digits, rfl, h⟩
  · rintro (h | ⟨digits, rfl, h⟩)
    · exact ⟨[], cs, rfl, .inl rfl, h⟩
    · exact ⟨['+'], digits, rfl, .inr rfl, h⟩

theorem isDigit_iff (c : Char) : c.isDigit = true ↔ '0' ≤ c ∧ c ≤ '9' := by
  simp [Char.isDigit, Char.le_def]

theorem maxNatural_eq : maxNatural = 18446744073709551615 := by rw [maxNatural, Nat.pow_eq]

/-! ### Digits -/

/-- The number that digits write behind a number. -/
def digitsAfter (n : Nat) (digits : List Char) : Nat := digits.foldl (fun n c => 10 * n + digitValue c) n

@[simp] theorem digitsAfter_nil (n : Nat) : digitsAfter n [] = n := rfl

@[simp] theorem digitsAfter_cons (n : Nat) (c : Char) (cs : List Char) :
    digitsAfter n (c :: cs) = digitsAfter (10 * n + digitValue c) cs := by
  rw [digitsAfter, List.foldl_cons, ← digitsAfter]

theorem le_digitsAfter (n : Nat) (digits : List Char) : n ≤ digitsAfter n digits := by
  induction digits generalizing n with
  | nil => exact Nat.le_refl n
  | cons c cs ih =>
    have hrest := ih (10 * n + digitValue c)
    rw [digitsAfter_cons]
    omega

theorem digitsAfter_zero (digits : List Char) :
    digitsAfter 0 digits = Nat.ofDigits 10 (digits.map digitValue).reverse := by
  rw [Nat.ofDigits_eq_foldr, List.foldr_reverse, List.foldl_map]
  simp only [digitsAfter, Nat.cast_id, Nat.add_comm]

/-- No digit is refused for the size of the number unless the whole number is too large. -/
theorem readDigitsAfter_eq_ok_iff {m : Nat} (hm : m ≤ maxNatural) {cs : List Char} {n : Nat} :
    readDigitsAfter m cs = .ok n ↔ (∀ c ∈ cs, c.isDigit = true) ∧ n = digitsAfter m cs ∧ n ≤ maxNatural := by
  induction cs generalizing m with
  | nil =>
    rw [readDigitsAfter, Except.ok.injEq, digitsAfter_nil]
    constructor
    · rintro rfl
      exact ⟨fun c hc => absurd hc List.not_mem_nil, rfl, hm⟩
    · exact fun h => h.2.1.symm
  | cons c cs ih =>
    rw [readDigitsAfter, digitsAfter_cons, List.forall_mem_cons]
    by_cases hc : c.isDigit = true
    · by_cases hlarge : maxNatural < 10 * m + digitValue c
      · -- more digits make the number no smaller
        have hrest := le_digitsAfter (10 * m + digitValue c) cs
        rw [if_neg (by simp [hc]), if_pos hlarge]
        constructor
        · exact fun h => nomatch h
        · rintro ⟨-, rfl, hle⟩
          omega
      · rw [if_neg (by simp [hc]), if_neg hlarge, ih (Nat.not_lt.1 hlarge)]
        simp only [hc, true_and]
    · rw [if_pos (by simp [hc])]
      constructor
      · exact fun h => nomatch h
      · exact fun h => absurd h.1.1 hc

theorem areDigits_iff {cs : List Char} {n : Nat} : AreDigits cs n ↔ cs ≠ [] ∧ readDigitsAfter 0 cs = .ok n := by
  rw [readDigitsAfter_eq_ok_iff (Nat.zero_le _), digitsAfter_zero, maxNatural_eq]
  simp only [isDigit_iff]
  constructor
  · exact fun h => ⟨h.ne_nil, h.between, h.eq_ofDigits, h.le_max⟩
  · exact fun ⟨hne, hall, hn, hmax⟩ => ⟨hne, hall, hn, hmax⟩

/-! ### Numerals -/

theorem not_areDigits_plus (cs : List Char) (n : Nat) : ¬AreDigits ('+' :: cs) n := by
  intro h
  have := h.between '+' List.mem_cons_self
  revert this
  decide

/-- The texts that are read are the numerals. -/
theorem readNatural_eq_ok_iff {cs : List Char} {n : Nat} : readNatural cs = .ok n ↔ IsNumeral cs n := by
  rw [isNumeral_iff]
  unfold readNatural
  split
  · simp [areDigits_iff]
  · next cs =>
    rw [or_iff_right (not_areDigits_plus cs n)]
    simp only [List.cons.injEq, true_and, exists_eq_left', areDigits_iff]
    split
    · next hnil =>
      constructor
      · exact fun h => nomatch h
      · exact fun h => absurd hnil h.1
    · next hne => exact ⟨fun h => ⟨hne, h⟩, fun h => h.2⟩
  · next hne hplus =>
    have hno : ¬∃ digits, cs = '+' :: digits ∧ AreDigits digits n := fun ⟨digits, h, _⟩ => hplus digits h
    rw [or_iff_left hno, areDigits_iff]
    exact ⟨fun h => ⟨hne, h⟩, fun h => h.2⟩

end MarketBrief.Number
