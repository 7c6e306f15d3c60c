import Mathlib.Algebra.Order.Field.Basic
import Mathlib.Algebra.Order.Field.Rat
import Mathlib.Data.Finset.Card
import Mathlib.Tactic.Positivity
import MarketBrief.Proofs.Overlap
import MarketBrief.Proofs.Token.Grammar

/-!
# The overlap as an exact quotient

The number that two texts are compared by is a rounded one. Behind it stands a quotient of sizes of finite sets, and of
this quotient everything can be told exactly.

* `roundHalfEven_le`, `quotientUnits_le`: rounding does not go beyond a whole number, nor beyond one;
* `Binary64.ofQuotient_eq_of_mul_eq`: a quotient can be reduced before it is rounded;
* `Binary64.nearest`: the binary number nearest to a rational one;
* `tokenSet`, `overlap`: the words of a text as a set, and the exact overlap;
* `overlapRatio_eq_nearest`: the overlap that is computed is the exact one, rounded;
* `overlap_eq_zero_iff`, `overlap_eq_one_iff`: when there is none, and when it is whole;
* `tokenSet_joined`, `tokenSet_bare`: what the words of a text do not depend on.
-/

namespace MarketBrief

open Number Text Token

/-! ### Rounding -/

namespace Number

theorem roundHalfEven_le {num den m : Nat} (hden : 0 < den) (h : num ≤ den * m) : roundHalfEven num den ≤ m := by
  have hq : num / den ≤ m := Nat.div_le_of_le_mul h
  rcases Nat.lt_or_eq_of_le hq with hlt | heq
  · simp only [roundHalfEven]
    split
    · exact hq
    · split <;> omega
  · -- the quotient is `m` without a remainder
    have hrest : num % den = 0 := by
      have := Nat.div_add_mod num den
      rw [heq] at this
      omega
    simp only [roundHalfEven, hrest, heq]
    rw [if_pos (by omega)]

theorem roundHalfEven_mul_mul {k : Nat} (hk : 0 < k) (num den : Nat) :
    roundHalfEven (k * num) (k * den) = roundHalfEven num den := by
  simp only [roundHalfEven, Nat.mul_div_mul_left _ _ hk, Nat.mul_mod_mul_left, Nat.mul_left_comm 2 k,
    Nat.mul_lt_mul_left hk]

theorem quotientUnits_mul_mul {k : Nat} (hk : 0 < k) (num den : Nat) :
    quotientUnits (k * num) (k * den) = quotientUnits num den := by
  simp only [quotientUnits, Nat.mul_assoc, Nat.mul_div_mul_left _ _ hk, roundHalfEven_mul_mul hk]

theorem Binary64.ofQuotient_mul_mul {k : Nat} (hk : 0 < k) (negative : Bool) (num den : Nat) :
    ofQuotient negative (k * num) (k * den) = ofQuotient negative num den := by
  rw [ofQuotient, quotientUnits_mul_mul hk, ofQuotient]

/-- Equal quotients are rounded to the same number. -/
theorem Binary64.ofQuotient_eq_of_mul_eq {a b c d : Nat} (hb : 0 < b) (hd : 0 < d) (h : a * d = c * b)
    (negative : Bool) : ofQuotient negative a b = ofQuotient negative c d := by
  rw [← ofQuotient_mul_mul hd, ← ofQuotient_mul_mul hb negative c, Nat.mul_comm d a, h, Nat.mul_comm c, Nat.mul_comm d b]

theorem stepExponent_le {units m : Nat} (h : units ≤ 2 ^ m) : stepExponent units ≤ m := by
  rcases Nat.eq_zero_or_pos units with rfl | hpos
  · exact Nat.zero_le m
  · have hlog : units.log2 < m + 1 := (Nat.log2_lt hpos.ne').2 (h.trans_lt (Nat.pow_lt_pow_succ (by decide)))
    rw [stepExponent]
    omega

/-- A power of two is a multiple of every smaller one, so nothing below it is rounded up beyond it. -/
theorem roundHalfEven_mul_two_pow_le {num den m e : Nat} (hden : 0 < den) (h : num ≤ den) (he : e ≤ m) :
    roundHalfEven (num * 2 ^ m) (den * 2 ^ e) * 2 ^ e ≤ 2 ^ m := by
  have hpow : 2 ^ e * 2 ^ (m - e) = 2 ^ m := by rw [← Nat.pow_add, Nat.add_sub_cancel' he]
  have hround : roundHalfEven (num * 2 ^ m) (den * 2 ^ e) ≤ 2 ^ (m - e) := by
    refine roundHalfEven_le (Nat.mul_pos hden (Nat.two_pow_pos e)) ?_
    rw [Nat.mul_assoc, hpow]
    exact Nat.mul_le_mul_right _ h
  calc roundHalfEven (num * 2 ^ m) (den * 2 ^ e) * 2 ^ e
      ≤ 2 ^ (m - e) * 2 ^ e := Nat.mul_le_mul_right _ hround
    _ = 2 ^ m := by rw [Nat.mul_comm, hpow]

theorem exists_unitsInOne_eq_pow : ∃ m, unitsInOne = Nat.pow 2 m := by
  delta unitsInOne
  exact ⟨1074, Eq.refl _⟩

theorem quotientUnits_le {num den : Nat} (hden : 0 < den) (h : num ≤ den) : quotientUnits num den ≤ unitsInOne := by
  obtain ⟨m, hm⟩ := exists_unitsInOne_eq_pow
  rw [quotientUnits, hm]
  exact roundHalfEven_mul_two_pow_le hden h (stepExponent_le (Nat.div_le_of_le_mul (Nat.mul_le_mul_right _ h)))

theorem Binary64.isFraction_finite {units : Nat} (h : units ≤ unitsInOne) : (finite false units).isFraction = true := by
  have hzero : le zero (.finite false units) = true := decide_eq_true (Int.natCast_nonneg units)
  have hone : le (.finite false units) one = true := decide_eq_true (Int.ofNat_le.2 h)
  rw [isFraction, hzero, hone]
  rfl

theorem Binary64.isFraction_ofQuotient {num den : Nat} (hden : 0 < den) (h : num ≤ den) :
    (ofQuotient false num den).isFraction = true := by
  have hle := quotientUnits_le hden h
  rw [ofQuotient_of_le hle]
  exact isFraction_finite hle

theorem quotientUnits_zero (den : Nat) : quotientUnits 0 den = 0 := by
  simp [quotientUnits, roundHalfEven]

/-- The binary number nearest to a rational one. -/
def Binary64.nearest (q : ℚ) : Binary64 := ofQuotient (q < 0) q.num.natAbs q.den

theorem Binary64.nearest_zero : nearest 0 = zero := by
  have hle : quotientUnits 0 1 ≤ unitsInOne := (quotientUnits_zero 1).trans_le (Nat.zero_le _)
  show ofQuotient false 0 1 = zero
  rw [ofQuotient_of_le hle, quotientUnits_zero, zero]

theorem Binary64.nearest_div (a : Nat) {b : Nat} (hb : 0 < b) : nearest (a / b) = ofQuotient false a b := by
  have hnonneg : (0 : ℚ) ≤ a / b := by positivity
  have hnum : (((a / b : ℚ).num.natAbs : ℕ) : ℚ) = (a / b : ℚ).num := by
    rw [← Int.cast_natCast, Int.natAbs_of_nonneg (Rat.num_nonneg.2 hnonneg)]
  have hden : (0 : ℚ) < (a / b : ℚ).den := Nat.cast_pos.2 (Rat.den_pos _)
  have hcross : (a / b : ℚ).num.natAbs * b = a * (a / b : ℚ).den := by
    have hb' : (b : ℚ) ≠ 0 := Nat.cast_ne_zero.2 hb.ne'
    have h : ((a / b : ℚ).num : ℚ) / (a / b : ℚ).den = a / b := Rat.num_div_den _
    rw [div_eq_div_iff hden.ne' hb', ← hnum] at h
    exact_mod_cast h
  rw [nearest, decide_eq_false (not_lt.2 hnonneg)]
  exact ofQuotient_eq_of_mul_eq (Rat.den_pos _) hb hcross false

end Number

/-! ### Words as sets -/

/-- The different words of a text, without their order. -/
def tokenSet (text : String) : Finset String := (tokenize text).toFinset

/-- The exact overlap: the words shared, over the words of the smaller set. It is zero if one of the texts has none. -/
def overlap (a b : String) : ℚ := (tokenSet a ∩ tokenSet b).card / min (tokenSet a).card (tokenSet b).card

theorem toFinset_wordSet (text : String) : (wordSet text).toFinset = tokenSet text := by
  ext w
  simp [wordSet, tokenSet]

theorem length_wordSet (text : String) : (wordSet text).length = (tokenSet text).card := by
  rw [← toFinset_wordSet, List.toFinset_card_of_nodup (nodup_wordSet text)]

theorem sharedWords_wordSet (a b : String) :
    sharedWords (wordSet a) (wordSet b) = (tokenSet a ∩ tokenSet b).card := by
  have hset : ((wordSet a).filter (wordSet b).contains).toFinset = tokenSet a ∩ tokenSet b := by
    ext w
    simp [wordSet, tokenSet]
  rw [sharedWords, List.countP_eq_length_filter, ← hset,
    List.toFinset_card_of_nodup ((nodup_wordSet a).filter _)]

theorem card_inter_le_min (a b : String) :
    (tokenSet a ∩ tokenSet b).card ≤ min (tokenSet a).card (tokenSet b).card :=
  le_min (Finset.card_le_card Finset.inter_subset_left) (Finset.card_le_card Finset.inter_subset_right)

theorem overlapRatio_eq (a b : String) :
    overlapRatio a b = if min (tokenSet a).card (tokenSet b).card = 0 then .zero
      else .ofQuotient false (tokenSet a ∩ tokenSet b).card (min (tokenSet a).card (tokenSet b).card) := by
  rw [overlapRatio, setOverlapRatio, length_wordSet, length_wordSet, sharedWords_wordSet]

/-! ### The exact overlap and the computed one -/

theorem overlapRatio_eq_nearest (a b : String) : overlapRatio a b = .nearest (overlap a b) := by
  rw [overlapRatio_eq]
  split
  · next hzero => rw [overlap, hzero, Nat.cast_zero, div_zero, Binary64.nearest_zero]
  · next hne => rw [overlap, Binary64.nearest_div _ (Nat.pos_of_ne_zero hne)]

theorem isFraction_overlapRatio (a b : String) : (overlapRatio a b).isFraction = true := by
  rw [overlapRatio_eq]
  split
  · decide +kernel
  · next hne => exact Binary64.isFraction_ofQuotient (Nat.pos_of_ne_zero hne) (card_inter_le_min a b)

theorem overlap_comm (a b : String) : overlap a b = overlap b a := by
  rw [overlap, Finset.inter_comm, min_comm, overlap]

theorem overlap_nonneg (a b : String) : 0 ≤ overlap a b := by
  unfold overlap
  positivity

theorem overlap_le_one (a b : String) : overlap a b ≤ 1 := by
  rw [overlap]
  exact div_le_one_of_le₀ (Nat.cast_le.2 (card_inter_le_min a b)) (Nat.cast_nonneg _)

theorem overlap_eq_zero_iff (a b : String) : overlap a b = 0 ↔ Disjoint (tokenSet a) (tokenSet b) := by
  rw [overlap, div_eq_zero_iff, Nat.cast_eq_zero, Nat.cast_eq_zero, Finset.card_eq_zero,
    Finset.disjoint_iff_inter_eq_empty]
  refine ⟨fun h => h.elim id fun hmin => ?_, Or.inl⟩
  have hle := card_inter_le_min a b
  rw [hmin, Nat.le_zero] at hle
  exact Finset.card_eq_zero.1 hle

theorem card_inter_eq_card_iff {s t : Finset String} : (s ∩ t).card = s.card ↔ s ⊆ t := by
  rw [← Finset.inter_eq_left]
  exact ⟨fun h => Finset.eq_of_subset_of_card_le Finset.inter_subset_left h.ge, fun h => by rw [h]⟩

/-- Of two sets the smaller one is shared as a whole exactly if one of them contains the other. -/
theorem card_inter_eq_min_iff (s t : Finset String) :
    (s ∩ t).card = min s.card t.card ↔ s ⊆ t ∨ t ⊆ s := by
  constructor
  · intro h
    rcases Nat.le_total s.card t.card with hle | hle
    · exact Or.inl (card_inter_eq_card_iff.1 (h.trans (min_eq_left hle)))
    · rw [Finset.inter_comm] at h
      exact Or.inr (card_inter_eq_card_iff.1 (h.trans (min_eq_right hle)))
  · rintro (hst | hts)
    · rw [Finset.inter_eq_left.2 hst, min_eq_left (Finset.card_le_card hst)]
    · rw [Finset.inter_eq_right.2 hts, min_eq_right (Finset.card_le_card hts)]

theorem overlap_eq_one_iff (a b : String) :
    overlap a b = 1 ↔ (tokenSet a).Nonempty ∧ (tokenSet b).Nonempty ∧
      (tokenSet a ⊆ tokenSet b ∨ tokenSet b ⊆ tokenSet a) := by
  rw [← card_inter_eq_min_iff, ← and_assoc, ← Finset.card_pos, ← Finset.card_pos, ← lt_min_iff, overlap]
  rcases Nat.eq_zero_or_pos (min (tokenSet a).card (tokenSet b).card) with hzero | hpos
  · simp [hzero]
  · rw [div_eq_one_iff_eq (Nat.cast_ne_zero.2 hpos.ne'), Nat.cast_inj]
    exact (and_iff_right hpos).symm

/-! ### What the words do not depend on -/

theorem overlapRatio_congr {a a' b b' : String} (ha : tokenSet a = tokenSet a') (hb : tokenSet b = tokenSet b') :
    overlapRatio a b = overlapRatio a' b' := by
  rw [overlapRatio_eq, ha, hb, overlapRatio_eq]

theorem tokenize_joined_eq_flatMap (parts : List String) :
    tokenize (joined " " parts) = parts.flatMap tokenize := by
  induction parts with
  | nil => rfl
  | cons part parts ih =>
    by_cases hparts : parts = []
    · rw [hparts, joined_singleton, List.flatMap_singleton]
    · have hspace : Unicode.isBlank ' ' = true := by decide
      rw [List.flatMap_cons, ← ih, tokenize_eq_map, toList_joined_cons hparts, loweredTokens_append_of_isBlank hspace,
        List.map_append, ← tokenize_eq_map, ← tokenize_eq_map]

/-- Of parts joined by spaces neither the order nor the number of copies matters. -/
theorem tokenSet_joined {parts others : List String} (h : ∀ part, part ∈ parts ↔ part ∈ others) :
    tokenSet (joined " " parts) = tokenSet (joined " " others) := by
  ext w
  simp [tokenSet, tokenize_joined_eq_flatMap, h]

/-- Nor does it matter what stands between and around the tokens. -/
theorem tokenSet_bare (text : String) : tokenSet (joined " " (tokenize text)) = tokenSet text := by
  rw [tokenSet, tokenize_joined, tokenSet]

end MarketBrief
