import Mathlib.Data.List.Infix
import MarketBrief.Category.Keyword
import MarketBrief.Proofs.Text.Joined

/-!
# Keywords in joined texts

Texts are joined by single spaces. A keyword with a space in it may begin in one of them and end in a later one; then it
spans a seam.

* `SpansAt`, `Spans`: a keyword lies across a character between two texts, or across a space;
* `SpansSeam`: it lies across one of the seams of several texts;
* `occurrencesAfter_append`: a search that meets no keyword across a character is two searches;
* `countOccurrences_append`: at a character outside words both sides are counted apart;
* `countOccurrences_joined`: keywords that span no seam count as often as in the texts one by one.
-/

namespace MarketBrief.Category

open Unicode Text

/-! ### Seams -/

/-- The keyword begins at the end of one text and ends at the beginning of the next, with `separator` between them. -/
def SpansAt (separator : Char) (keyword front back : List Char) : Prop :=
  ∃ a b, keyword = a ++ separator :: b ∧ a <:+ front ∧ b <+: back

/-- The character between the texts is a space. -/
def Spans (keyword front back : List Char) : Prop := SpansAt ' ' keyword front back

/-- The keyword spans the seam between some of the texts and those behind them. -/
def SpansSeam (keyword : String) (texts : List String) : Prop :=
  ∃ front back, texts = front ++ back ∧ front ≠ [] ∧ back ≠ [] ∧
    Spans keyword.toList (joined " " front).toList (joined " " back).toList

theorem SpansAt.mono {separator : Char} {keyword front longer back : List Char}
    (h : SpansAt separator keyword front back) (hsub : front <:+ longer) : SpansAt separator keyword longer back := by
  obtain ⟨a, b, hkeyword, ha, hb⟩ := h
  exact ⟨a, b, hkeyword, ha.trans hsub, hb⟩

/-- A keyword that the end of a text begins and the next text completes spans the character between them. -/
theorem isPrefix_of_not_spans {separator : Char} {keyword x y : List Char} (h : ¬ SpansAt separator keyword x y)
    (hpre : keyword <+: x ++ separator :: y) : keyword <+: x := by
  rcases List.prefix_or_prefix_of_prefix hpre (List.prefix_append x _) with hx | ⟨t, rfl⟩
  · exact hx
  · rcases List.prefix_cons_iff.1 ((List.prefix_append_right_inj x).1 hpre) with rfl | ⟨b, rfl, hb⟩
    · exact ⟨[], by rw [List.append_nil, List.append_nil]⟩
    · exact absurd ⟨x, b, rfl, List.suffix_refl x, hb⟩ h

/-! ### Search across a character -/

theorem occurrencesAfter_of_found {keyword : List Char} {c : Char} {cs : List Char}
    (h : keyword ≠ [] ∧ keyword.isPrefixOf (c :: cs)) (before? : Option Char) :
    occurrencesAfter keyword before? (c :: cs) =
      (before?, (c :: cs).drop keyword.length) ::
        occurrencesAfter keyword keyword.getLast? ((c :: cs).drop keyword.length) := by
  rw [occurrencesAfter, if_pos h]

theorem occurrencesAfter_of_not_found {keyword : List Char} {c : Char} {cs : List Char}
    (h : ¬ (keyword ≠ [] ∧ keyword.isPrefixOf (c :: cs))) (before? : Option Char) :
    occurrencesAfter keyword before? (c :: cs) = occurrencesAfter keyword (some c) cs := by
  rw [occurrencesAfter, if_neg h]

/-- No place of the search lies across the separator, so what follows it is searched from its beginning. -/
theorem occurrencesAfter_append {separator : Char} (keyword : List Char) (before? : Option Char) (x y : List Char)
    (h : ¬ SpansAt separator keyword x y) :
    occurrencesAfter keyword before? (x ++ separator :: y) =
      (occurrencesAfter keyword before? x).map (fun place => (place.1, place.2 ++ separator :: y)) ++
        occurrencesAfter keyword (some separator) y := by
  fun_induction occurrencesAfter keyword before? x with
  | case1 before? =>
    have hnot : ¬ (keyword ≠ [] ∧ keyword.isPrefixOf (separator :: y)) := by
      rintro ⟨hne, hpre⟩
      exact hne (List.prefix_nil.1 (isPrefix_of_not_spans (x := []) h (List.isPrefixOf_iff_prefix.1 hpre)))
    rw [List.nil_append, occurrencesAfter_of_not_found hnot]
    rfl
  | case2 before? c cs hfound rest ih =>
    have hpre : keyword <+: c :: cs := List.isPrefixOf_iff_prefix.1 hfound.2
    have hlonger : keyword ≠ [] ∧ keyword.isPrefixOf (c :: (cs ++ separator :: y)) :=
      ⟨hfound.1, List.isPrefixOf_iff_prefix.2 (hpre.trans (List.prefix_append _ _))⟩
    have hdrop : (c :: cs ++ separator :: y).drop keyword.length = rest ++ separator :: y :=
      List.drop_append_of_le_length hpre.length_le
    have hrest : ¬ SpansAt separator keyword rest y := fun hspans => h (hspans.mono (List.drop_suffix _ _))
    rw [List.cons_append, occurrencesAfter_of_found hlonger, ← List.cons_append, hdrop, ih hrest]
    rfl
  | case3 before? c cs hnot ih =>
    have hlonger : ¬ (keyword ≠ [] ∧ keyword.isPrefixOf (c :: (cs ++ separator :: y))) := by
      rintro ⟨hne, hpre⟩
      exact hnot ⟨hne, List.isPrefixOf_iff_prefix.2
        (isPrefix_of_not_spans h (List.isPrefixOf_iff_prefix.1 hpre))⟩
    have hrest : ¬ SpansAt separator keyword cs y := fun hspans => h (hspans.mono (List.suffix_cons c cs))
    rw [List.cons_append, occurrencesAfter_of_not_found hlonger, ih hrest]

/-! ### What counts -/

section Outside

variable {separator : Char} (hseparator : isAlphanumeric separator = false)

include hseparator

theorem counts_append (keyword : List Char) (place : Option Char × List Char) (y : List Char) :
    counts keyword (place.1, place.2 ++ separator :: y) = counts keyword place := by
  unfold counts
  cases hrest : place.2 with
  | nil => simp [hseparator]
  | cons c cs => simp

theorem countP_occurrencesAfter (keyword y : List Char) :
    (occurrencesAfter keyword (some separator) y).countP (counts keyword) =
      (occurrencesAfter keyword none y).countP (counts keyword) := by
  cases y with
  | nil => simp only [occurrencesAfter]
  | cons c cs =>
    by_cases hfound : keyword ≠ [] ∧ keyword.isPrefixOf (c :: cs)
    · rw [occurrencesAfter_of_found hfound, occurrencesAfter_of_found hfound, List.countP_cons, List.countP_cons]
      simp [counts, hseparator]
    · rw [occurrencesAfter_of_not_found hfound, occurrencesAfter_of_not_found hfound]

theorem countOccurrences_append {keyword : String} {x y : List Char} (h : ¬ SpansAt separator keyword.toList x y) :
    countOccurrences (String.ofList (x ++ separator :: y)) keyword =
      countOccurrences (String.ofList x) keyword + countOccurrences (String.ofList y) keyword := by
  have hcongr : (counts keyword.toList ∘ fun place : Option Char × List Char => (place.1, place.2 ++ separator :: y)) =
      counts keyword.toList := funext fun place => counts_append hseparator _ place y
  simp only [countOccurrences, String.toList_ofList]
  rw [occurrencesAfter_append _ _ _ _ h, List.countP_append, List.countP_map, hcongr,
    countP_occurrencesAfter hseparator]

end Outside

/-! ### Several texts -/

theorem SpansSeam.cons {keyword : String} {texts : List String} (h : SpansSeam keyword texts) (text : String) :
    SpansSeam keyword (text :: texts) := by
  obtain ⟨front, back, rfl, hfront, hback, hspans⟩ := h
  refine ⟨text :: front, back, rfl, List.cons_ne_nil _ _, hback, SpansAt.mono hspans ?_⟩
  rw [toList_joined_cons hfront]
  exact (List.suffix_cons _ _).trans (List.suffix_append _ _)

theorem spansSeam_of_spans {keyword : String} {texts : List String} (hne : texts ≠ []) {text : String}
    (h : Spans keyword.toList text.toList (joined " " texts).toList) : SpansSeam keyword (text :: texts) :=
  ⟨[text], texts, rfl, List.cons_ne_nil _ _, hne, by rwa [joined_singleton]⟩

theorem countOccurrences_joined (keyword : String) (texts : List String) (h : ¬ SpansSeam keyword texts) :
    countOccurrences (joined " " texts) keyword = (texts.map (countOccurrences · keyword)).foldr (· + ·) 0 := by
  induction texts with
  | nil => simp [countOccurrences, occurrencesAfter]
  | cons text texts ih =>
    by_cases hne : texts = []
    · simp [hne, joined_singleton]
    · have htail : ¬ SpansSeam keyword texts := fun hspans => h (hspans.cons text)
      have hhead : ¬ SpansAt ' ' keyword.toList text.toList (joined " " texts).toList := fun hspans =>
        h (spansSeam_of_spans hne hspans)
      have hjoined : joined " " (text :: texts) = String.ofList (text.toList ++ ' ' :: (joined " " texts).toList) :=
        String.toList_inj.1 (by rw [toList_joined_cons hne, String.toList_ofList])
      rw [hjoined, countOccurrences_append (by decide) hhead, String.ofList_toList, String.ofList_toList, ih htail,
        List.map_cons, List.foldr_cons]

end MarketBrief.Category
