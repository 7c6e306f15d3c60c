import MarketBrief.Extraction.Options
import MarketBrief.Overlap
import MarketBrief.Proofs.Lists

/-!
# The overlap of two texts is mutual

* `overlapRatio_comm`: neither text is the first one;
* `overlapRatio_self`, `overlapRatio_of_wordless`: a text with words overlaps wholly with itself, one without words with
  nothing;
* `overlapRatio_ne_nan`, `ne_nan_of_isFraction`: the ratio and a threshold between zero and one can be compared;
* `Binary64.le_of_lt_eq_false`: of two numbers that can be compared one is at most the other.
-/

namespace MarketBrief

open Number

/-! ### Words in common -/

theorem nodup_wordSet (text : String) : (wordSet text).Nodup := Lists.nodup_eraseDups _

theorem sharedWords_comm {a b : List String} (ha : a.Nodup) (hb : b.Nodup) : sharedWords a b = sharedWords b a := by
  unfold sharedWords
  rw [List.countP_eq_length_filter, List.countP_eq_length_filter]
  refine List.Perm.length_eq ((List.perm_ext_iff_of_nodup (ha.filter _) (hb.filter _)).2 fun w => ?_)
  simp [and_comm]

theorem overlapRatio_comm (a b : String) : overlapRatio a b = overlapRatio b a := by
  unfold overlapRatio setOverlapRatio
  rw [Nat.min_comm, sharedWords_comm (nodup_wordSet a) (nodup_wordSet b)]

/-! ### Whole overlap, and none -/

theorem Number.roundHalfEven_mul (n : Nat) {den : Nat} (h : 0 < den) : roundHalfEven (n * den) den = n := by
  simp [roundHalfEven, Nat.mul_div_cancel _ h, h]

/-- One is a multiple of the step between the numbers near it, so nothing is rounded. -/
theorem Number.quotientUnits_self {n : Nat} (h : 0 < n) : quotientUnits n n = unitsInOne := by
  obtain ⟨step, hstep, hpos, hone⟩ : ∃ step, Nat.pow 2 (stepExponent unitsInOne) = step ∧ 0 < step ∧
      unitsInOne = Nat.pow 2 52 * step := ⟨_, rfl, by decide +kernel, by decide +kernel⟩
  have hscaled : n * unitsInOne = Nat.pow 2 52 * (n * step) := by rw [hone, Nat.mul_left_comm]
  rw [quotientUnits, Nat.mul_div_cancel_left _ h, hstep, hscaled, roundHalfEven_mul _ (Nat.mul_pos h hpos), ← hone]

/-- A quotient up to one is far from infinite. -/
theorem Number.Binary64.ofQuotient_of_le {negative : Bool} {num den : Nat} (h : quotientUnits num den ≤ unitsInOne) :
    ofQuotient negative num den = .finite negative (quotientUnits num den) := by
  have hfinite : unitsInOne < Nat.pow 2 1024 * unitsInOne := by decide +kernel
  rw [ofQuotient, if_pos (h.trans_lt hfinite)]

theorem Number.Binary64.ofQuotient_self {n : Nat} (h : 0 < n) : ofQuotient false n n = one := by
  rw [ofQuotient_of_le (quotientUnits_self h).le, quotientUnits_self h, one]

theorem wordSet_eq_nil_iff {text : String} : wordSet text = [] ↔ Token.tokenize text = [] := by
  rw [List.eq_nil_iff_forall_not_mem, List.eq_nil_iff_forall_not_mem]
  simp only [wordSet, List.mem_eraseDups]

theorem overlapRatio_self {text : String} (h : Token.tokenize text ≠ []) : overlapRatio text text = .one := by
  have hpos : 0 < (wordSet text).length := List.length_pos_of_ne_nil (mt wordSet_eq_nil_iff.1 h)
  have hshared : sharedWords (wordSet text) (wordSet text) = (wordSet text).length :=
    List.countP_eq_length.2 fun w hw => List.contains_iff_mem.2 hw
  rw [overlapRatio, setOverlapRatio, Nat.min_self, if_neg (Nat.ne_of_gt hpos), hshared, Binary64.ofQuotient_self hpos]

theorem overlapRatio_of_wordless {a : String} (h : Token.tokenize a = []) (b : String) : overlapRatio a b = .zero := by
  rw [overlapRatio, setOverlapRatio, wordSet_eq_nil_iff.2 h, List.length_nil, Nat.zero_min, if_pos rfl]

/-! ### Comparing ratios -/

theorem overlapRatio_ne_nan (a b : String) : overlapRatio a b ≠ .nan := by
  simp only [overlapRatio, setOverlapRatio, Binary64.ofQuotient, Binary64.zero]
  split
  · simp
  · split <;> simp

theorem ne_nan_of_isFraction {x : Binary64} (h : x.isFraction = true) : x ≠ .nan := by
  rintro rfl
  simp [Binary64.isFraction, Binary64.le] at h

theorem lt_zero_of_isFraction {x : Binary64} (h : x.isFraction = true) : x.lt .zero = false := by
  have hzero : Binary64.zero.le x = true := (Bool.and_eq_true_iff.1 h).1
  cases x with
  | nan => rfl
  | infinite n => cases n <;> simp_all [Binary64.zero, Binary64.le, Binary64.lt]
  | finite n a =>
    simp only [Binary64.zero, Binary64.le, Binary64.lt, decide_eq_true_eq, decide_eq_false_iff_not] at hzero ⊢
    omega

theorem Number.Binary64.le_of_lt_eq_false {x y : Binary64} (hx : x ≠ .nan) (hy : y ≠ .nan) (h : x.lt y = false) :
    y.le x = true := by
  cases x with
  | nan => exact absurd rfl hx
  | infinite n =>
    cases y with
    | nan => exact absurd rfl hy
    | infinite m => cases n <;> cases m <;> simp_all [Binary64.lt, Binary64.le]
    | finite m b => simp_all [Binary64.lt, Binary64.le]
  | finite n a =>
    cases y with
    | nan => exact absurd rfl hy
    | infinite m => simp_all [Binary64.lt, Binary64.le]
    | finite m b =>
      simp only [Binary64.lt, decide_eq_false_iff_not, Int.not_lt] at h
      simpa [Binary64.le] using h

end MarketBrief
