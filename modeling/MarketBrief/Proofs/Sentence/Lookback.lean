import Mathlib.Data.List.TakeWhile
import MarketBrief.Proofs.Lists
import MarketBrief.Proofs.Unicode.Lowercase
import MarketBrief.Sentence.Boundary

/-!
# How far the guards of a dot look back

Whether a text ends in an abbreviation or an initial is told by its last two words at most. So a blank behind a run of
marks hides all that stands before it.

* `isBlank_of_isRunMark`, `lowerChar_of_isRunMark`: marks are no blanks and have no case;
* `endsAbbreviated_append`: the guards see nothing of a text that ends in a mark and is followed by a blank.
-/

namespace MarketBrief.Sentence

open MarketBrief.Lists Unicode

/-! ### Marks -/

theorem isRunMark_of_isTerminal {c : Char} (h : isTerminal c = true) : isRunMark c = true := by
  simp [isRunMark, h]

theorem forall_isRunMark {P : Char → Bool}
    (hP : ['.', '!', '?', '"', '\'', ')', ']', '\u201d', '\u2019'].all P = true) {c : Char} (h : isRunMark c = true) :
    P c = true := by
  refine List.all_eq_true.1 hP c ?_
  simp only [isRunMark, isTerminal, isClosing, Bool.or_eq_true, beq_iff_eq] at h
  simpa [or_assoc] using h

theorem isBlank_of_isRunMark {c : Char} (h : isRunMark c = true) : isBlank c = false := by
  have hmark := forall_isRunMark (P := fun c => !isBlank c) (by decide) h
  simpa using hmark

theorem lowerChar_of_isRunMark {c : Char} (h : isRunMark c = true) : lowerChar c = [c] := by
  have hmark := forall_isRunMark (P := fun c => lowerChar c == [c]) (by decide +kernel) h
  simpa using hmark

/-! ### Label words -/

theorem getLast?_lower_append_mark {m : Char} (hm : isRunMark m = true) (w : List Char) :
    (lower (w ++ [m])).getLast? = some m := by
  have hne : m ≠ '\u03a3' := by
    have hmark := forall_isRunMark (P := (· != '\u03a3')) (by decide) hm
    simpa using hmark
  have hsuffix : [m] <:+ lower (w ++ [m]) := by
    have := lowerAfter_suffix [] w [m]
    simpa [lower, lowerAfter, hne, lowerChar_of_isRunMark hm] using this
  obtain ⟨front, hfront⟩ := hsuffix
  rw [← hfront]
  simp

/-- No label word ends in a mark. -/
theorem lower_append_mark_notMem {m : Char} (hm : isRunMark m = true) (w : List Char) :
    lower (w ++ [m]) ∉ labelWords := by
  have hlast : (labelWords.all fun label => label.getLast?.all fun c => !isRunMark c) = true := by decide +kernel
  intro h
  have hno := List.all_eq_true.1 hlast _ h
  rw [getLast?_lower_append_mark hm w, Option.all_some, hm] at hno
  exact absurd hno (by decide)

theorem endsInLabelWord_append {b : Char} (hb : isBlank b = true) (x : List Char) {y : List Char}
    (hy : ∀ c ∈ y.head?, isRunMark c = true) : endsInLabelWord (x ++ b :: y) = endsInLabelWord (x ++ [b]) := by
  unfold endsInLabelWord
  by_cases hx : ∀ c ∈ x, isBlank c = true
  · -- the last word of the shorter text is empty, and that of the longer one ends in the mark
    rw [List.dropWhile_append_of_pos hx, List.dropWhile_append_of_pos hx]
    cases y with
    | nil => rfl
    | cons m y =>
      have hm : isRunMark m = true := hy m rfl
      have hempty : lower [] ∉ labelWords := by decide +kernel
      simp [hb, isBlank_of_isRunMark hm, lower_append_mark_notMem hm, hempty]
  · have hne : x.dropWhile isBlank ≠ [] := fun h => hx (List.dropWhile_eq_nil_iff.1 h)
    have hdrop : ∀ z, (x ++ z).dropWhile isBlank = x.dropWhile isBlank ++ z := fun z => by
      rw [List.dropWhile_append, if_neg (by simpa using hne)]
    rw [hdrop, hdrop, takeWhile_append_cons (by simp [hb]), takeWhile_append_cons (by simp [hb])]

/-! ### The guards -/

theorem isAbbreviationChar_of_isBlank {b : Char} (hb : isBlank b = true) : isAbbreviationChar b = false := by
  have hdot : b ≠ '.' := by
    rintro rfl
    revert hb
    decide
  simp [isAbbreviationChar, isAlphanumeric_of_isBlank hb, hdot]

/-- Texts are reversed here: behind the blank stands what came before it. -/
theorem endsAbbreviated_append {b : Char} (hb : isBlank b = true) (x : List Char) {y : List Char}
    (hy : ∀ c ∈ y.head?, isRunMark c = true) : endsAbbreviated (x ++ b :: y) = endsAbbreviated (x ++ [b]) := by
  have hb' := isAbbreviationChar_of_isBlank hb
  unfold endsAbbreviated
  rw [takeWhile_append_cons hb', takeWhile_append_cons hb', dropWhile_append_cons hb', dropWhile_append_cons hb',
    endsInLabelWord_append hb _ hy]

end MarketBrief.Sentence
