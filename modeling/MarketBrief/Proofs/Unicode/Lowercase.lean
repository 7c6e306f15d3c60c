import MarketBrief.Proofs.Unicode.Class

/-!
# Lowercase texts in parts

Only the capital sigma maps by what stands around it, and it looks no further than to the next blank on either side.

* `lowerAfter_suffix`: the end of a text keeps its form when the lowercase text is cut there;
* `lower_append_of_isBlank`: on both sides of a blank the lowercase mapping can be done apart;
* `lower_between`: blanks around a text stay as they are and change nothing in it.
-/

namespace MarketBrief.Unicode

theorem lowerAfter_suffix (before x y : List Char) :
    lowerAfter (x.reverse ++ before) y <:+ lowerAfter before (x ++ y) := by
  induction x generalizing before with
  | nil => exact List.suffix_rfl
  | cons c x ih =>
    simp only [List.cons_append, lowerAfter, List.reverse_cons, List.append_assoc, List.nil_append]
    exact (ih (c :: before)).trans (List.suffix_append _ _)

theorem meetsCased_append_of_isBlank {b : Char} (hb : isBlank b = true) (x y : List Char) :
    meetsCased (x ++ b :: y) = meetsCased x := by
  unfold meetsCased
  rw [List.dropWhile_append]
  split
  · next h =>
    rw [List.isEmpty_iff.1 h]
    simp [isCaseIgnorable_of_isBlank hb, isCased_of_isBlank hb]
  · next h =>
    obtain ⟨c, cs, hc⟩ := List.exists_cons_of_ne_nil (mt List.isEmpty_iff.2 h)
    simp [hc]

theorem lowerAfter_append_before_of_isBlank {b : Char} (hb : isBlank b = true) (x before y : List Char) :
    lowerAfter (x ++ b :: before) y = lowerAfter x y := by
  induction y generalizing x with
  | nil => rfl
  | cons c y ih =>
    have hsigma : endsWordAsSigma (x ++ b :: before) y = endsWordAsSigma x y := by
      unfold endsWordAsSigma
      rw [meetsCased_append_of_isBlank hb]
    rw [lowerAfter, lowerAfter, hsigma, ← List.cons_append, ih (c :: x)]

theorem lowerAfter_append_of_isBlank {b : Char} (hb : isBlank b = true) (before x y : List Char) :
    lowerAfter before (x ++ b :: y) = lowerAfter before x ++ b :: lower y := by
  induction x generalizing before with
  | nil =>
    have hne : b ≠ '\u03a3' := by
      rintro rfl
      revert hb
      decide
    have hctx := lowerAfter_append_before_of_isBlank hb [] before y
    rw [List.nil_append] at hctx
    simp [lowerAfter, lower, hne, lowerChar_of_isBlank hb, hctx]
  | cons c x ih =>
    have hsigma : endsWordAsSigma before (x ++ b :: y) = endsWordAsSigma before x := by
      unfold endsWordAsSigma
      rw [meetsCased_append_of_isBlank hb]
    rw [List.cons_append, lowerAfter, lowerAfter, hsigma, ih (c :: before), List.append_assoc]

/-- A blank parts a text for the lowercase mapping. -/
theorem lower_append_of_isBlank {b : Char} (hb : isBlank b = true) (x y : List Char) :
    lower (x ++ b :: y) = lower x ++ b :: lower y :=
  lowerAfter_append_of_isBlank hb [] x y

theorem lower_blanks_append {lead : List Char} (h : ∀ c ∈ lead, isBlank c = true) (cs : List Char) :
    lower (lead ++ cs) = lead ++ lower cs := by
  induction lead with
  | nil => rfl
  | cons b lead ih =>
    obtain ⟨hb, hlead⟩ := List.forall_mem_cons.1 h
    rw [List.cons_append, List.cons_append, ← ih hlead]
    exact lower_append_of_isBlank hb [] (lead ++ cs)

theorem lower_between {lead trail : List Char} (hlead : ∀ c ∈ lead, isBlank c = true)
    (htrail : ∀ c ∈ trail, isBlank c = true) (cs : List Char) :
    lower (lead ++ cs ++ trail) = lead ++ lower cs ++ trail := by
  rw [List.append_assoc, lower_blanks_append hlead, List.append_assoc]
  cases trail with
  | nil => rw [List.append_nil, List.append_nil]
  | cons b trail =>
    obtain ⟨hb, htrail⟩ := List.forall_mem_cons.1 htrail
    have hself := lower_blanks_append htrail []
    rw [List.append_nil] at hself
    rw [lower_append_of_isBlank hb, hself]
    exact congrArg (fun form => lead ++ (lower cs ++ b :: form)) (List.append_nil trail)

end MarketBrief.Unicode
