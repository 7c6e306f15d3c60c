import MarketBrief.Unicode.Blank
import MarketBrief.Unicode.Lowercase
import MarketBrief.Unicode.Word

/-!
# Classes with few characters

What all characters of a short list of runs have in common is found by going through them. That two lists of runs have
no point in common is found by going through the runs.

* `Run.points`: the code points of a run;
* `of_covers`: what holds at all points of some runs holds of every character that the runs cover;
* `Run.isApart`, `Run.isApartFrom`: runs without a common point, told by their ends and steps;
* `covers_eq_false_of_isBlank`, `isBlank_of_covers`: the tables in which no blank is;
* `isAlphanumeric_of_isBlank`, `isWordChar_of_isBlank`, `isCased_of_isBlank`, `isCaseIgnorable_of_isBlank`,
  `lowerChar_of_isBlank`: blanks lie outside words, have no case, and end what a capital sigma looks at;
* `isUppercase_of_isLowercase`: no character has both cases.
-/

namespace MarketBrief.Unicode

/-! ### Going through the points of runs -/

/-- The code points of a run, in ascending order. -/
def Run.points (r : Run) : List Nat := (List.range ((r.last - r.first) / r.step + 1)).map (r.first + r.step * ·)

theorem Run.mem_points_of_has {r : Run} {n : Nat} (h : r.has n = true) : n ∈ r.points := by
  simp only [Run.has, Bool.and_eq_true, decide_eq_true_eq, beq_iff_eq] at h
  obtain ⟨⟨hfirst, hlast⟩, hmod⟩ := h
  refine List.mem_map.2 ⟨(n - r.first) / r.step, List.mem_range.2 ?_, ?_⟩
  · have : (n - r.first) / r.step ≤ (r.last - r.first) / r.step := Nat.div_le_div_right (by omega)
    omega
  · have := Nat.div_add_mod (n - r.first) r.step
    omega

theorem exists_has_of_covers {rs : List Run} {n : Nat} (h : covers rs n = true) : ∃ r ∈ rs, r.has n = true := by
  induction rs with
  | nil => simp [covers] at h
  | cons r rs ih =>
    simp only [covers] at h
    split at h
    · simp at h
    · rcases Bool.or_eq_true_iff.1 h with h | h
      · exact ⟨r, by simp, h⟩
      · obtain ⟨r', hr', h'⟩ := ih h
        exact ⟨r', List.mem_cons_of_mem _ hr', h'⟩

theorem of_covers {rs : List Run} {P : Char → Bool} (hP : ∀ r ∈ rs, ∀ n ∈ r.points, P (Char.ofNat n) = true)
    {c : Char} (h : covers rs c.toNat = true) : P c = true := by
  obtain ⟨r, hr, hc⟩ := exists_has_of_covers h
  have := hP r hr c.toNat (Run.mem_points_of_has hc)
  rwa [Char.ofNat_toNat] at this

/-! ### Runs without a common point -/

theorem Run.between_of_has {r : Run} {n : Nat} (h : r.has n = true) : r.first ≤ n ∧ n ≤ r.last := by
  simp only [Run.has, Bool.and_eq_true, decide_eq_true_eq] at h
  exact h.1

/-- One run ends before the other begins, or is a single point outside it, or both take every other point and do so in
turns. -/
def Run.isApart (r s : Run) : Bool :=
  r.last.blt s.first || s.last.blt r.first || (r.first == r.last && !s.has r.first) ||
    (r.step == 2 && s.step == 2 && (r.first + s.first) % 2 == 1)

theorem Run.has_eq_false_of_isApart {r s : Run} (h : r.isApart s = true) {n : Nat} (hr : r.has n = true) :
    s.has n = false := by
  simp only [Run.has, Bool.and_eq_true, decide_eq_true_eq, beq_iff_eq] at hr
  obtain ⟨⟨hfirst, hlast⟩, hstep⟩ := hr
  simp only [Run.isApart, Bool.or_eq_true, Bool.and_eq_true, Nat.blt_eq, beq_iff_eq, Bool.not_eq_true'] at h
  rw [← Bool.not_eq_true]
  intro hs
  rcases h with ((hbefore | hbehind) | ⟨hpoint, hout⟩) | ⟨⟨hr2, hs2⟩, hturn⟩
  · rw [Run.has_eq_false_of_lt (by omega)] at hs
    exact Bool.noConfusion hs
  · have hrange := Run.between_of_has hs
    omega
  · obtain rfl : n = r.first := by omega
    rw [hout] at hs
    exact Bool.noConfusion hs
  · simp only [Run.has, Bool.and_eq_true, decide_eq_true_eq, beq_iff_eq, hs2] at hs
    rw [hr2] at hstep
    omega

/-- The run has no point in common with any of some runs, as far as these begin within its range. -/
def Run.isApartFrom (r : Run) : List Run → Bool
  | [] => true
  | s :: ss =>
    bif s.last.blt r.first then r.isApartFrom ss else r.last.blt s.first || (r.isApart s && r.isApartFrom ss)

theorem Run.covers_eq_false_of_isApartFrom {r : Run} {ss : List Run} (h : r.isApartFrom ss = true) {n : Nat}
    (hn : r.has n = true) : covers ss n = false := by
  have hrange := Run.between_of_has hn
  induction ss with
  | nil => rfl
  | cons s ss ih =>
    rw [covers]
    split
    · rfl
    · rw [Run.isApartFrom] at h
      cases hbelow : s.last.blt r.first with
      | true =>
        rw [hbelow, cond_true] at h
        have hout : s.has n = false := by
          rw [← Bool.not_eq_true]
          intro hs
          have hother := Run.between_of_has hs
          rw [Nat.blt_eq] at hbelow
          omega
        rw [hout, ih h]
        rfl
      | false =>
        rw [hbelow, cond_false, Bool.or_eq_true, Nat.blt_eq, Bool.and_eq_true] at h
        rcases h with habove | ⟨hs, hss⟩
        · omega
        · rw [Run.has_eq_false_of_isApart hs hn, ih hss]
          rfl

theorem Run.has_eq_false_of_isApartFrom {r : Run} {ss : List Run} (hss : Ascending ss) (h : r.isApartFrom ss = true)
    {n : Nat} (hn : r.has n = true) : ∀ s ∈ ss, s.has n = false := by
  have hcovers := Run.covers_eq_false_of_isApartFrom h hn
  rw [covers_eq_any hss, List.any_eq_false] at hcovers
  exact fun s hs => Bool.eq_false_iff.2 (hcovers s hs)

/-! ### Blanks -/

/-- Tables of letters, numbers, marks and case. -/
def wordTables : List (List Run) :=
  [letterRuns, letterNumberRuns, otherAlphabeticRuns, numberRuns, decimalDigitRuns, markRuns, connectorRuns,
    smallLetterRuns, otherLowercaseRuns, capitalLetterRuns, otherUppercaseRuns, titleLetterRuns, caseIgnorableRuns,
    lowerShifts.map Shift.run]

theorem blankRuns_isApartFrom : (wordTables.all fun rs => blankRuns.all (·.isApartFrom rs)) = true := by
  decide +kernel

/-- None of these tables has a blank. -/
theorem covers_eq_false_of_isBlank {c : Char} (h : isBlank c = true) : ∀ rs ∈ wordTables, covers rs c.toNat = false := by
  intro rs hrs
  obtain ⟨r, hr, hc⟩ := exists_has_of_covers h
  exact Run.covers_eq_false_of_isApartFrom (List.all_eq_true.1 (List.all_eq_true.1 blankRuns_isApartFrom rs hrs) r hr) hc

theorem isBlank_of_covers {c : Char} {rs : List Run} (hrs : rs ∈ wordTables) (h : covers rs c.toNat = true) :
    isBlank c = false := by
  rw [← Bool.not_eq_true]
  intro hblank
  rw [covers_eq_false_of_isBlank hblank rs hrs] at h
  exact Bool.noConfusion h

theorem isLetter_of_isBlank {c : Char} (h : isBlank c = true) : isLetter c = false :=
  covers_eq_false_of_isBlank h letterRuns (by simp [wordTables])

theorem isNumber_of_isBlank {c : Char} (h : isBlank c = true) : isNumber c = false :=
  covers_eq_false_of_isBlank h numberRuns (by simp [wordTables])

theorem isDecimalDigit_of_isBlank {c : Char} (h : isBlank c = true) : isDecimalDigit c = false :=
  covers_eq_false_of_isBlank h decimalDigitRuns (by simp [wordTables])

theorem isAlphabetic_of_isBlank {c : Char} (h : isBlank c = true) : isAlphabetic c = false := by
  have htables := covers_eq_false_of_isBlank h
  simp only [wordTables, List.forall_mem_cons] at htables
  simp [isAlphabetic, isLetter, isLetterNumber, htables]

theorem isAlphanumeric_of_isBlank {c : Char} (h : isBlank c = true) : isAlphanumeric c = false := by
  rw [isAlphanumeric, isAlphabetic_of_isBlank h, isNumber_of_isBlank h]
  rfl

theorem isWordChar_of_isBlank {c : Char} (h : isBlank c = true) : isWordChar c = false := by
  have hjoin : isJoinControl c = false := by
    rw [← Bool.not_eq_true, isJoinControl, Bool.or_eq_true, beq_iff_eq, beq_iff_eq]
    rintro (rfl | rfl) <;> exact absurd h (by decide)
  have htables := covers_eq_false_of_isBlank h
  simp only [wordTables, List.forall_mem_cons] at htables
  simp [isWordChar, isAlphabetic_of_isBlank h, isMark, isDecimalDigit, isConnector, htables, hjoin]

theorem isCased_of_isBlank {c : Char} (h : isBlank c = true) : isCased c = false := by
  have htables := covers_eq_false_of_isBlank h
  simp only [wordTables, List.forall_mem_cons] at htables
  simp [isCased, isLowercase, isUppercase, isSmallLetter, isCapitalLetter, isTitleLetter, htables]

theorem isCaseIgnorable_of_isBlank {c : Char} (h : isBlank c = true) : isCaseIgnorable c = false :=
  covers_eq_false_of_isBlank h caseIgnorableRuns (by simp [wordTables])

theorem shifted?_of_covers_eq_false {shifts : List Shift} {n : Nat} (h : covers (shifts.map Shift.run) n = false) :
    shifted? shifts n = none := by
  induction shifts with
  | nil => rfl
  | cons s shifts ih =>
    rw [List.map_cons, covers] at h
    rw [shifted?]
    split
    · rfl
    · next hge =>
      rw [if_neg hge, Bool.or_eq_false_iff] at h
      rw [h.1, ih h.2]
      rfl

theorem lowerChar_of_isBlank {c : Char} (h : isBlank c = true) : lowerChar c = [c] := by
  have hdot : c ≠ '\u0130' := by
    rintro rfl
    exact absurd h (by decide)
  have hshifts := covers_eq_false_of_isBlank h (lowerShifts.map Shift.run) (by simp [wordTables])
  rw [lowerChar, if_neg hdot, shifted?_of_covers_eq_false hshifts]

/-! ### Case -/

theorem lowerRuns_isApartFrom : ([smallLetterRuns, otherLowercaseRuns].all fun rs =>
    [capitalLetterRuns, otherUppercaseRuns].all fun ss => rs.all (·.isApartFrom ss)) = true := by
  decide +kernel

theorem isUppercase_of_isLowercase {c : Char} (h : isLowercase c = true) : isUppercase c = false := by
  obtain ⟨rs, hrs, hc⟩ : ∃ rs ∈ [smallLetterRuns, otherLowercaseRuns], covers rs c.toNat = true := by
    rcases Bool.or_eq_true_iff.1 h with hletter | hother
    · exact ⟨smallLetterRuns, List.mem_cons_self, hletter⟩
    · exact ⟨otherLowercaseRuns, List.mem_cons_of_mem _ List.mem_cons_self, hother⟩
  obtain ⟨r, hr, hn⟩ := exists_has_of_covers hc
  have hnone : ∀ ss ∈ [capitalLetterRuns, otherUppercaseRuns], covers ss c.toNat = false := fun ss hss =>
    Run.covers_eq_false_of_isApartFrom (List.all_eq_true.1 (List.all_eq_true.1
      (List.all_eq_true.1 lowerRuns_isApartFrom rs hrs) ss hss) r hr) hn
  rw [isUppercase, isCapitalLetter, hnone capitalLetterRuns List.mem_cons_self,
    hnone otherUppercaseRuns (List.mem_cons_of_mem _ List.mem_cons_self), Bool.or_false]

end MarketBrief.Unicode
