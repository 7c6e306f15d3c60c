import Mathlib.Data.List.Basic
import MarketBrief.Proofs.Unicode.Lowercase

/-!
# Lowercase texts

A text that is in lowercase stays as it is. That rests on the tables: no character that the lowercase mapping gives has
a lowercase form other than itself, and none is a blank.

* `isLowered_of_mem_lowerChar`, `isBlank_of_mem_lowerChar`: what the forms of single characters are like;
* `lower_lower`, `lower_eq_nil_iff`: lowercase texts stay as they are, and no text vanishes;
* `not_blank_head_lower`, `not_blank_last_lower`: no blank comes to stand at an end of a text.
-/

namespace MarketBrief.Unicode

/-! ### Shifted points -/

/-- The points that a shift gives. -/
def Shift.image (s : Shift) : Run := ⟨s.target, s.target + (s.run.last - s.run.first), s.run.step⟩

theorem Shift.has_image (s : Shift) {n : Nat} (h : s.run.has n = true) :
    s.image.has (s.target + (n - s.run.first)) = true := by
  simp only [Run.has, Bool.and_eq_true, decide_eq_true_eq] at h ⊢
  obtain ⟨⟨hfirst, hlast⟩, hstep⟩ := h
  refine ⟨⟨Nat.le_add_right _ _, ?_⟩, ?_⟩
  · exact Nat.add_le_add_left (Nat.sub_le_sub_right hlast _) _
  · rwa [Shift.image, Nat.add_sub_cancel_left]

theorem exists_shift_of_shifted? {shifts : List Shift} {n m : Nat} (h : shifted? shifts n = some m) :
    ∃ s ∈ shifts, s.image.has m = true := by
  induction shifts with
  | nil => exact absurd h (Option.some_ne_none m).symm
  | cons s shifts ih =>
    rw [shifted?] at h
    split at h
    · exact absurd h (Option.some_ne_none m).symm
    · split at h
      · next hhas =>
        obtain rfl := Option.some.inj h
        exact ⟨s, List.mem_cons_self, s.has_image hhas⟩
      · obtain ⟨t, ht, hm⟩ := ih h
        exact ⟨t, List.mem_cons_of_mem _ ht, hm⟩

theorem shifted?_eq_none {shifts : List Shift} {n : Nat} (h : ∀ s ∈ shifts, s.run.has n = false) :
    shifted? shifts n = none := by
  induction shifts with
  | nil => rfl
  | cons s shifts ih =>
    obtain ⟨hs, hshifts⟩ := List.forall_mem_cons.1 h
    rw [shifted?, hs, ih hshifts]
    simp

/-- The points where no lowercase form lies: those that have one, and blanks. -/
def unlowered : List Run := ⟨0x130, 0x130, 1⟩ :: lowerShifts.map Shift.run ++ blankRuns

theorem image_isApart : (lowerShifts.all fun s => s.image.isApart ⟨0x130, 0x130, 1⟩ &&
    s.image.isApartFrom (lowerShifts.map Shift.run) && s.image.isApartFrom blankRuns) = true := by
  decide +kernel

theorem ascending_lowerShifts : Ascending (lowerShifts.map Shift.run) := by decide +kernel

/-- No image reaches a surrogate or the end of the code points. -/
theorem image_isValidChar : (lowerShifts.all fun s =>
    s.image.last.blt 0xD800 || (Nat.blt 0xDFFF s.image.first && s.image.last.blt 0x110000)) = true := by
  decide +kernel

theorem has_unlowered_of_shifted? {n m : Nat} (h : shifted? lowerShifts n = some m) :
    (Char.ofNat m).toNat = m ∧ ∀ r ∈ unlowered, r.has m = false := by
  obtain ⟨s, hs, hm⟩ := exists_shift_of_shifted? h
  constructor
  · have hvalid := List.all_eq_true.1 image_isValidChar s hs
    simp only [Bool.or_eq_true, Bool.and_eq_true, Nat.blt_eq] at hvalid
    simp only [Run.has, Bool.and_eq_true, decide_eq_true_eq] at hm
    have hchar : m.isValidChar := by
      unfold Nat.isValidChar
      omega
    rw [Char.ofNat, dif_pos hchar]
    rfl
  · have hapart := List.all_eq_true.1 image_isApart s hs
    rw [Bool.and_eq_true, Bool.and_eq_true] at hapart
    obtain ⟨⟨hdot, hshifts⟩, hblanks⟩ := hapart
    intro r hr
    rcases List.mem_append.1 hr with hr | hr
    · rcases List.mem_cons.1 hr with rfl | hr
      · exact Run.has_eq_false_of_isApart hdot hm
      · exact Run.has_eq_false_of_isApartFrom ascending_lowerShifts hshifts hm r hr
    · exact Run.has_eq_false_of_isApartFrom (by decide) hblanks hm r hr

/-! ### Forms of characters -/

theorem lowerChar_ne_nil (c : Char) : lowerChar c ≠ [] := by
  unfold lowerChar
  split
  · exact List.cons_ne_nil _ _
  · split <;> exact List.cons_ne_nil _ _

/-- Of the forms that the mapping gives, one is the character, or none is a point at which there is no form. -/
theorem lowerChar_cases (c : Char) :
    lowerChar c = [c] ∨ ∀ d ∈ lowerChar c, ∀ r ∈ unlowered, r.has d.toNat = false := by
  unfold lowerChar
  split
  · exact Or.inr (List.forall_mem_cons.2 ⟨by decide +kernel, List.forall_mem_singleton.2 (by decide +kernel)⟩)
  · split
    · next n hn =>
      right
      intro d hd
      obtain rfl := List.mem_singleton.1 hd
      rw [(has_unlowered_of_shifted? hn).1]
      exact (has_unlowered_of_shifted? hn).2
    · exact Or.inl rfl

/-- A character that has no lowercase form but itself, wherever it stands. -/
structure IsLowered (c : Char) : Prop where
  lowerChar_eq : lowerChar c = [c]
  ne_sigma : c ≠ '\u03a3'

theorem isLowered_of_mem_lowerChar {c d : Char} (hc : c ≠ '\u03a3') (h : d ∈ lowerChar c) : IsLowered d := by
  rcases lowerChar_cases c with hself | hout
  · obtain rfl : d = c := by simpa [hself] using h
    exact ⟨hself, hc⟩
  · have hd := hout d h
    have hshifts : ∀ s ∈ lowerShifts, s.run.has d.toNat = false := fun s hs =>
      hd s.run (List.mem_append_left _ (List.mem_cons_of_mem _ (List.mem_map_of_mem hs)))
    constructor
    · have hdot : d ≠ '\u0130' := by
        rintro rfl
        exact absurd (hd ⟨0x130, 0x130, 1⟩ List.mem_cons_self) (by decide)
      rw [lowerChar, if_neg hdot, shifted?_eq_none hshifts]
    · rintro rfl
      exact absurd hshifts (by decide +kernel)

theorem isBlank_of_mem_lowerChar {c d : Char} (hc : isBlank c = false) (h : d ∈ lowerChar c) : isBlank d = false := by
  rcases lowerChar_cases c with hself | hout
  · obtain rfl : d = c := by simpa [hself] using h
    exact hc
  · rw [← Bool.not_eq_true]
    intro hblank
    obtain ⟨r, hr, hhas⟩ := exists_has_of_covers hblank
    have hfalse := hout d h r (List.mem_append_right _ hr)
    rw [hhas] at hfalse
    exact Bool.noConfusion hfalse

/-! ### Forms of texts -/

/-- The form of the first character of a text stands before the form of the rest. -/
theorem exists_lowerAfter_cons (before : List Char) (c : Char) (cs : List Char) :
    ∃ form, lowerAfter before (c :: cs) = form ++ lowerAfter (c :: before) cs ∧ form ≠ [] ∧
      (∀ d ∈ form, IsLowered d) ∧ (isBlank c = false → ∀ d ∈ form, isBlank d = false) := by
  refine ⟨_, rfl, ?_⟩
  by_cases hsigma : c = '\u03a3'
  · rw [if_pos hsigma]
    cases endsWordAsSigma before cs with
    | true =>
      exact ⟨List.cons_ne_nil _ _, List.forall_mem_singleton.2 ⟨by decide +kernel, by decide⟩,
        fun _ => List.forall_mem_singleton.2 (by decide)⟩
    | false =>
      exact ⟨List.cons_ne_nil _ _, List.forall_mem_singleton.2 ⟨by decide +kernel, by decide⟩,
        fun _ => List.forall_mem_singleton.2 (by decide)⟩
  · rw [if_neg hsigma]
    exact ⟨lowerChar_ne_nil c, fun d => isLowered_of_mem_lowerChar hsigma, fun hc d => isBlank_of_mem_lowerChar hc⟩

theorem isLowered_of_mem_lowerAfter {before cs : List Char} {d : Char} (h : d ∈ lowerAfter before cs) :
    IsLowered d := by
  induction cs generalizing before with
  | nil => exact absurd h List.not_mem_nil
  | cons c cs ih =>
    obtain ⟨form, heq, -, hform, -⟩ := exists_lowerAfter_cons before c cs
    rw [heq] at h
    rcases List.mem_append.1 h with h | h
    · exact hform d h
    · exact ih h

theorem lowerAfter_of_isLowered (before : List Char) {cs : List Char} (h : ∀ c ∈ cs, IsLowered c) :
    lowerAfter before cs = cs := by
  induction cs generalizing before with
  | nil => rfl
  | cons c cs ih =>
    obtain ⟨hc, hcs⟩ := List.forall_mem_cons.1 h
    rw [lowerAfter, if_neg hc.ne_sigma, hc.lowerChar_eq, ih _ hcs]
    rfl

/-- A text in lowercase stays as it is. -/
theorem lower_lower (cs : List Char) : lower (lower cs) = lower cs :=
  lowerAfter_of_isLowered [] fun _ => isLowered_of_mem_lowerAfter

theorem lower_eq_nil_iff {cs : List Char} : lower cs = [] ↔ cs = [] := by
  cases cs with
  | nil => exact iff_of_true rfl rfl
  | cons c cs =>
    obtain ⟨form, heq, hne, -⟩ := exists_lowerAfter_cons [] c cs
    exact iff_of_false (by rw [lower, heq]; exact List.append_ne_nil_of_left_ne_nil hne _) (List.cons_ne_nil _ _)

theorem not_blank_head_lower {cs : List Char} (h : ∀ c ∈ cs.head?, isBlank c = false) :
    ∀ d ∈ (lower cs).head?, isBlank d = false := by
  cases cs with
  | nil => simp [lower, lowerAfter]
  | cons c cs =>
    obtain ⟨form, heq, hne, -, hblank⟩ := exists_lowerAfter_cons [] c cs
    rw [lower, heq, List.head?_append_of_ne_nil _ hne]
    exact fun d hd => hblank (h c rfl) d (List.mem_of_head? hd)

theorem not_blank_last_lower {cs : List Char} (h : ∀ c ∈ cs.getLast?, isBlank c = false) :
    ∀ d ∈ (lower cs).getLast?, isBlank d = false := by
  rcases List.eq_nil_or_concat cs with rfl | ⟨front, c, rfl⟩
  · simp [lower, lowerAfter]
  · obtain ⟨form, heq, hne, -, hblank⟩ := exists_lowerAfter_cons (front.reverse ++ []) c []
    have hsuffix := lowerAfter_suffix [] front [c]
    rw [heq, lowerAfter, List.append_nil] at hsuffix
    obtain ⟨rest, hrest⟩ := hsuffix
    rw [List.concat_eq_append, lower, ← hrest, List.getLast?_append_of_ne_nil _ hne]
    exact fun d hd => hblank (h c (by simp)) d (List.mem_of_getLast? hd)

end MarketBrief.Unicode
