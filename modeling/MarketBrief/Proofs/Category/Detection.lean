import MarketBrief.Proofs.Category.Occurrences

/-!
# Which keywords are detected

The search goes on behind each place where it has found the keyword, whether that place counts or not. So a place that
does not count can hide one that overlaps it and would count.

* `StandsIn`: a keyword stands in a text where a word begins and, if it is short, ends;
* `BeginsAgain`: a keyword begins once more inside itself, where a word begins;
* `found_or_overlapped`: a keyword is found wherever it stands, unless a copy has been found that ends inside it;
* `detected_iff_not_beginsAgain`: what counts stands in the text, and exactly the keywords that do not begin
  again are never missed;
* `missed_behind_longer_word`: a keyword that is missed.
-/

namespace MarketBrief.Category

open Unicode

/-- The keyword stands somewhere in the text with no alphanumeric character before it and, if it has at most three
characters, none behind it. -/
def StandsIn (keyword text : String) : Prop :=
  ∃ before after, text.toList = before ++ keyword.toList ++ after ∧
    before.getLast?.any isAlphanumeric = false ∧
    (keyword.toList.length ≤ 3 → after.head?.any isAlphanumeric = false)

/-- The keyword overlaps a copy of itself that begins behind a character that is not alphanumeric. -/
def BeginsAgain (keyword : String) : Prop :=
  ∃ a b c, a ≠ [] ∧ b ≠ [] ∧ keyword.toList = a ++ b ∧ keyword.toList = b ++ c ∧
    a.getLast?.any isAlphanumeric = false

/-! ### Places that the search finds -/

theorem counts_iff {keyword : List Char} {place : Option Char × List Char} :
    counts keyword place = true ↔
      place.1.any isAlphanumeric = false ∧ (keyword.length ≤ 3 → place.2.head?.any isAlphanumeric = false) := by
  cases hbefore : place.1.any isAlphanumeric <;> by_cases hshort : keyword.length ≤ 3 <;>
    simp [counts, isShort, hbefore, hshort]

theorem getLast?_append_or {front : List Char} (hne : front ≠ []) (back : List Char) (before? : Option Char) :
    (front ++ back).getLast?.or before? = back.getLast?.or front.getLast? := by
  rw [List.getLast?_append, Option.or_assoc, List.getLast?_eq_some_getLast hne, Option.some_or]

theorem eq_append_of_mem_occurrencesAfter {keyword text : List Char} {before? : Option Char}
    {place : Option Char × List Char} (h : place ∈ occurrencesAfter keyword before? text) :
    ∃ before, text = before ++ keyword ++ place.2 ∧ place.1 = before.getLast?.or before? := by
  fun_induction occurrencesAfter keyword before? text with
  | case1 => simp at h
  | case2 before? c cs hfound rest ih =>
    have htext : keyword ++ rest = c :: cs := List.prefix_iff_eq_append.1 (List.isPrefixOf_iff_prefix.1 hfound.2)
    rcases List.mem_cons.1 h with rfl | h
    · exact ⟨[], htext.symm, rfl⟩
    · obtain ⟨before, hbefore, hplace⟩ := ih h
      refine ⟨keyword ++ before, ?_, hplace.trans (getLast?_append_or hfound.1 before before?).symm⟩
      rw [← htext, hbefore, List.append_assoc, List.append_assoc, List.append_assoc]
  | case3 before? c cs hnot ih =>
    obtain ⟨before, hbefore, hplace⟩ := ih h
    exact ⟨c :: before, by rw [hbefore, List.cons_append, List.cons_append],
      hplace.trans (getLast?_append_or (List.cons_ne_nil c []) before before?).symm⟩

theorem overlap_of_append_eq {keyword before tail after : List Char}
    (h : keyword ++ tail = before ++ keyword ++ after) (hlt : before.length < keyword.length) :
    ∃ b c, b ≠ [] ∧ keyword = before ++ b ∧ keyword = b ++ c := by
  rw [List.append_assoc] at h
  have hpre : before <+: keyword :=
    List.prefix_of_prefix_length_le ⟨keyword ++ after, h.symm⟩ (List.prefix_append _ _) hlt.le
  obtain ⟨b, hb⟩ := hpre
  have hrest : b ++ tail = keyword ++ after := by
    rw [← hb, List.append_assoc, hb] at h
    exact List.append_cancel_left h
  have hlen : before.length + b.length = keyword.length := by rw [← hb, List.length_append]
  obtain ⟨c, hc⟩ : b <+: keyword :=
    List.prefix_of_prefix_length_le ⟨tail, hrest⟩ (List.prefix_append _ _) (by omega)
  exact ⟨b, c, List.ne_nil_of_length_pos (by omega), hb.symm, hc.symm⟩

theorem found_or_overlapped (before? : Option Char) {keyword text before after : List Char} (hne : keyword ≠ [])
    (h : text = before ++ keyword ++ after) :
    (before.getLast?.or before?, after) ∈ occurrencesAfter keyword before? text ∨
      ∃ a b c, a ≠ [] ∧ b ≠ [] ∧ keyword = a ++ b ∧ keyword = b ++ c ∧ a <:+ before := by
  fun_induction occurrencesAfter keyword before? text generalizing before with
  | case1 => simp [hne] at h
  | case2 before? d cs hfound rest =>
    rename_i ih
    have htext : keyword ++ rest = d :: cs := List.prefix_iff_eq_append.1 (List.isPrefixOf_iff_prefix.1 hfound.2)
    rw [← htext] at h
    by_cases hlt : before.length < keyword.length
    · by_cases hnil : before = []
      · rw [hnil, List.nil_append] at h
        rw [hnil, List.append_cancel_left h]
        exact Or.inl List.mem_cons_self
      · obtain ⟨b, c, hb, hleft, hright⟩ := overlap_of_append_eq h hlt
        exact Or.inr ⟨before, b, c, hnil, hb, hleft, hright, List.suffix_refl _⟩
    · -- this copy begins behind the found one, where the search goes on
      rw [List.append_assoc] at h
      obtain ⟨front, rfl⟩ : keyword <+: before :=
        List.prefix_of_prefix_length_le ⟨rest, h⟩ (List.prefix_append _ _) (Nat.le_of_not_lt hlt)
      rw [List.append_assoc] at h
      rcases ih ((List.append_cancel_left h).trans (List.append_assoc ..).symm) with
        hmem | ⟨a, b, c, ha, hb, hleft, hright, hsuf⟩
      · rw [getLast?_append_or hne]
        exact Or.inl (List.mem_cons_of_mem _ hmem)
      · exact Or.inr ⟨a, b, c, ha, hb, hleft, hright, hsuf.trans (List.suffix_append _ _)⟩
  | case3 before? d cs hnot ih =>
    cases before with
    | nil => exact absurd ⟨hne, List.isPrefixOf_iff_prefix.2 ⟨after, h.symm⟩⟩ hnot
    | cons e front =>
      simp only [List.cons_append, List.cons.injEq] at h
      obtain ⟨rfl, h⟩ := h
      rcases ih h with hmem | ⟨a, b, c, ha, hb, hleft, hright, hsuf⟩
      · rw [← List.singleton_append, getLast?_append_or (List.cons_ne_nil d [])]
        exact Or.inl hmem
      · exact Or.inr ⟨a, b, c, ha, hb, hleft, hright, hsuf.trans (List.suffix_cons _ _)⟩

/-! ### Detection -/

theorem standsIn_of_countOccurrences_pos {keyword text : String} (h : 0 < countOccurrences text keyword) :
    StandsIn keyword text := by
  obtain ⟨place, hmem, hcounts⟩ := List.countP_pos_iff.1 h
  obtain ⟨before, htext, hbefore⟩ := eq_append_of_mem_occurrencesAfter hmem
  obtain ⟨hfree, hshort⟩ := counts_iff.1 hcounts
  rw [hbefore, Option.or_none] at hfree
  exact ⟨before, place.2, htext, hfree, hshort⟩

theorem countOccurrences_pos_of_standsIn {keyword text : String} (hne : keyword ≠ "") (hagain : ¬ BeginsAgain keyword)
    (h : StandsIn keyword text) : 0 < countOccurrences text keyword := by
  obtain ⟨before, after, htext, hfree, hshort⟩ := h
  rcases found_or_overlapped none (by simpa using hne) htext with
    hmem | ⟨a, b, c, ha, hb, hleft, hright, front, rfl⟩
  · rw [Option.or_none] at hmem
    exact List.countP_pos_iff.2 ⟨_, hmem, counts_iff.2 ⟨hfree, hshort⟩⟩
  · -- the copy begins inside the found one, behind the character that is not alphanumeric
    rw [List.getLast?_append_of_ne_nil _ ha] at hfree
    exact absurd ⟨a, b, c, ha, hb, hleft, hright, hfree⟩ hagain

theorem exists_letter_ne (d : Char) : ∃ e, isAlphanumeric e = true ∧ e ≠ d := by
  by_cases hd : d = 'a'
  · exact ⟨'b', by decide, by rw [hd]; decide⟩
  · exact ⟨'a', by decide, Ne.symm hd⟩

/-- Behind a letter, a keyword that begins again is missed: the copy behind the letter does not count, and it hides the
next one. -/
theorem exists_missed_of_beginsAgain {keyword : String} (h : BeginsAgain keyword) :
    ∃ text, StandsIn keyword text ∧ countOccurrences text keyword = 0 := by
  obtain ⟨a, b, c, ha, hb, hleft, hright, hfree⟩ := h
  have hne : keyword.toList ≠ [] := by simp [hleft, ha]
  obtain ⟨d, ds, hd⟩ := List.exists_cons_of_ne_nil hne
  obtain ⟨e, halnum, hed⟩ := exists_letter_ne d
  refine ⟨String.ofList (e :: (keyword.toList ++ c)), ⟨e :: a, [], ?_, ?_, by simp⟩, ?_⟩
  · rw [String.toList_ofList, List.append_nil, List.cons_append]
    nth_rewrite 1 [hleft]
    rw [List.append_assoc, ← hright]
  · rwa [← List.singleton_append, List.getLast?_append_of_ne_nil _ ha]
  · have hnot : ¬ (keyword.toList ≠ [] ∧ keyword.toList.isPrefixOf (e :: (keyword.toList ++ c))) := by
      rintro ⟨-, hpre⟩
      rw [hd, List.isPrefixOf_iff_prefix, List.cons_prefix_cons] at hpre
      exact hed hpre.1.symm
    have hfound : keyword.toList ≠ [] ∧ keyword.toList.isPrefixOf (d :: (ds ++ c)) :=
      ⟨hne, List.isPrefixOf_iff_prefix.2 ⟨c, by rw [hd, List.cons_append]⟩⟩
    have hdrop : (d :: (ds ++ c)).drop keyword.toList.length = c := by
      rw [← List.cons_append, ← hd, List.drop_left]
    have hshorter : occurrencesAfter keyword.toList keyword.toList.getLast? c = [] := by
      refine List.eq_nil_iff_forall_not_mem.2 fun place hplace => ?_
      obtain ⟨before, hc, -⟩ := eq_append_of_mem_occurrencesAfter hplace
      have hlen := congrArg List.length (hleft.symm.trans hright)
      have hpos := List.length_pos_of_ne_nil hb
      have hlong := congrArg List.length hc
      have hkey := congrArg List.length hright
      simp only [List.length_append] at hlen hlong hkey
      omega
    unfold countOccurrences
    rw [String.toList_ofList, occurrencesAfter_of_not_found hnot]
    nth_rewrite 3 [hd]
    rw [List.cons_append, occurrencesAfter_of_found hfound, hdrop, hshorter, List.countP_singleton]
    simp [counts, halnum]

/-- A keyword that counts stands in the text where a word begins. No text with the keyword standing in it is missed
exactly if the keyword does not begin again inside itself, where a word begins. -/
theorem detected_iff_not_beginsAgain (keyword : String) :
    (∀ text, 0 < countOccurrences text keyword → StandsIn keyword text) ∧
      ((∀ text, StandsIn keyword text → 0 < countOccurrences text keyword) ↔
        keyword ≠ "" ∧ ¬ BeginsAgain keyword) := by
  refine ⟨fun text => standsIn_of_countOccurrences_pos, ⟨fun hall => ⟨?_, fun hagain => ?_⟩, fun hkeyword text =>
    countOccurrences_pos_of_standsIn hkeyword.1 hkeyword.2⟩⟩
  · rintro rfl
    exact absurd (hall "" ⟨[], [], rfl, rfl, fun _ => rfl⟩) (by decide +kernel)
  · obtain ⟨text, hstands, hzero⟩ := exists_missed_of_beginsAgain hagain
    exact absurd (hall text hstands) (by rw [hzero]; exact Nat.lt_irrefl 0)

/-- The keyword `peer-to-peer` stands behind the hyphen, but the search has found it inside `superpeer` before. -/
theorem missed_behind_longer_word :
    ¬ ∀ text keyword : String, keyword ≠ "" → (0 < countOccurrences text keyword ↔ StandsIn keyword text) := by
  intro hall
  have hstands : StandsIn "peer-to-peer" "superpeer-to-peer-to-peer transfers" :=
    ⟨"superpeer-to-".toList, " transfers".toList, by decide +kernel, by decide +kernel, by decide +kernel⟩
  have hzero : countOccurrences "superpeer-to-peer-to-peer transfers" "peer-to-peer" = 0 := by decide +kernel
  exact absurd ((hall _ _ (by decide)).2 hstands) (by rw [hzero]; exact Nat.lt_irrefl 0)

end MarketBrief.Category
