import MarketBrief.Proofs.Text.Joined

/-!
# Words and the blanks between them

* `IsWord`, `isWord_of_mem_words`: a word is not empty and holds no blank;
* `exists_append_of_blank`: the blanks of words joined by spaces are the spaces between them;
* `IsSpaced`: a text of words with single spaces between them;
* `IsSpaced.around_blank`: a blank in such a text is a space, and neither before nor behind it is another one;
* `IsSpaced.trimmed`: there is none at its ends.
-/

namespace MarketBrief.Text

open Unicode

/-! ### Words -/

/-- A word has characters, and none of them is a blank. -/
structure IsWord (cs : List Char) : Prop where
  ne_nil : cs ≠ []
  not_blank : ∀ c ∈ cs, isBlank c = false

theorem isWord_of_mem_wordsAfter {word cs : List Char} (hword : ∀ c ∈ word, isBlank c = false) :
    ∀ w ∈ wordsAfter word cs, IsWord w := by
  have hread : ∀ {word : List Char}, word ≠ [] → (∀ c ∈ word, isBlank c = false) → IsWord word.reverse :=
    fun hne h => ⟨by simpa using hne, fun c hc => h c (List.mem_reverse.1 hc)⟩
  fun_induction wordsAfter word cs with
  | case1 => exact fun w hw => absurd hw List.not_mem_nil
  | case2 word hne =>
    intro w hw
    rw [List.mem_singleton.1 hw]
    exact hread hne hword
  | case3 c cs _ ih => exact ih hword
  | case4 word c cs _ hne ih =>
    intro w hw
    rcases List.mem_cons.1 hw with rfl | hw
    · exact hread hne hword
    · exact ih (fun c hc => absurd hc List.not_mem_nil) w hw
  | case5 word c cs hc ih => exact ih (List.forall_mem_cons.2 ⟨by simpa using hc, hword⟩)

theorem isWord_of_mem_words {cs w : List Char} (h : w ∈ words cs) : IsWord w :=
  isWord_of_mem_wordsAfter (fun _ hc => absurd hc List.not_mem_nil) w h

/-! ### Spaces between words -/

/-- Where joined words are cut at a blank, some of them are before it and the others behind it. -/
theorem exists_append_of_blank {b : Char} (hb : isBlank b = true) {ws : List (List Char)} (hws : ∀ w ∈ ws, IsWord w)
    {front back : List Char} (h : [' '].intercalate ws = front ++ b :: back) :
    b = ' ' ∧ ∃ us vs, us ≠ [] ∧ vs ≠ [] ∧ ws = us ++ vs ∧ front = [' '].intercalate us ∧
      back = [' '].intercalate vs := by
  induction ws generalizing front with
  | nil => simp at h
  | cons w ws ih =>
    obtain ⟨hw, hws⟩ := List.forall_mem_cons.1 hws
    have hnotMem : b ∉ w := fun hmem => Bool.noConfusion (hb.symm.trans (hw.not_blank b hmem))
    cases ws with
    | nil =>
      rw [List.intercalate_singleton] at h
      exact absurd (h ▸ List.mem_append_right front List.mem_cons_self) hnotMem
    | cons second rest =>
      rw [List.intercalate_cons_cons, List.append_assoc, List.singleton_append] at h
      rcases List.append_eq_append_iff.1 h with ⟨t, rfl, ht⟩ | ⟨t, rfl, ht⟩
      · cases t with
        | nil =>
          obtain ⟨rfl, hback⟩ := List.cons.inj ht
          exact ⟨rfl, [w], second :: rest, List.cons_ne_nil _ _, List.cons_ne_nil _ _, rfl, by simp, hback.symm⟩
        | cons c t =>
          obtain ⟨rfl, hrest⟩ := List.cons.inj ht
          obtain ⟨hspace, us, vs, hus, hvs, happend, rfl, hback⟩ := ih hws hrest
          refine ⟨hspace, w :: us, vs, List.cons_ne_nil _ _, hvs, by rw [happend, List.cons_append], ?_, hback⟩
          rw [List.intercalate_cons_of_ne_nil hus, List.append_assoc, List.singleton_append]
      · cases t with
        | nil =>
          obtain ⟨rfl, rfl⟩ := List.cons.inj ht
          exact ⟨rfl, [front], second :: rest, List.cons_ne_nil _ _, List.cons_ne_nil _ _, by simp, by simp, rfl⟩
        | cons c t =>
          obtain ⟨rfl, -⟩ := List.cons.inj ht
          exact absurd (List.mem_append_right front List.mem_cons_self) hnotMem

/-- The text consists of its words with single spaces between them. -/
def IsSpaced (s : String) : Prop := [' '].intercalate (words s.toList) = s.toList

instance (s : String) : Decidable (IsSpaced s) := inferInstanceAs (Decidable (_ = _))

namespace IsSpaced

variable {s : String} (hs : IsSpaced s)

include hs

theorem around_blank {b : Char} (hb : isBlank b = true) {front back : List Char} (h : s.toList = front ++ b :: back) :
    b = ' ' ∧ (∃ c ∈ front.getLast?, isBlank c = false) ∧ ∃ c ∈ back.head?, isBlank c = false := by
  obtain ⟨hspace, us, vs, hus, hvs, hwords, rfl, rfl⟩ :=
    exists_append_of_blank hb (fun w => isWord_of_mem_words) (hs.trans h)
  have hword : ∀ w ∈ us ++ vs, IsWord w := fun w hw => isWord_of_mem_words (hwords ▸ hw)
  refine ⟨hspace, ?_, ?_⟩
  · obtain ⟨us, u, rfl⟩ := (List.eq_nil_or_concat us).resolve_left hus
    have hu := hword u (by simp)
    rw [List.concat_eq_append, getLast?_intercalate _ _ hu.ne_nil, List.getLast?_eq_some_getLast hu.ne_nil]
    exact ⟨_, rfl, hu.not_blank _ (List.getLast_mem hu.ne_nil)⟩
  · obtain ⟨v, vs, rfl⟩ := List.exists_cons_of_ne_nil hvs
    have hv := hword v (by simp)
    rw [head?_intercalate _ hv.ne_nil, List.head?_eq_some_head hv.ne_nil]
    exact ⟨_, rfl, hv.not_blank _ (List.head_mem hv.ne_nil)⟩

theorem trimmed : trimmed s = s := by
  rw [← String.toList_inj, toList_trimmed]
  refine trim_of_not_blank (fun c hc => ?_) fun c hc => ?_
  · by_contra hblank
    obtain ⟨rest, hrest⟩ := List.head?_eq_some_iff.1 hc
    obtain ⟨-, ⟨d, hd, -⟩, -⟩ := hs.around_blank (by simpa using hblank) (hrest.trans (List.nil_append _).symm)
    exact absurd hd (by simp)
  · by_contra hblank
    obtain ⟨front, hfront⟩ := List.getLast?_eq_some_iff.1 hc
    obtain ⟨-, -, d, hd, -⟩ := hs.around_blank (by simpa using hblank) hfront
    exact absurd hd (by simp)

end IsSpaced

end MarketBrief.Text
