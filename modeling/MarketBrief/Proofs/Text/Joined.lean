import MarketBrief.Proofs.Text.Trim
import MarketBrief.Proofs.Unicode.Lowercase
import MarketBrief.Text.Basic

/-!
# Joined texts

* `joined_eq_intercalate`: the separator stands between two texts and nowhere else;
* `joined_ne_empty`: nothing of a text is lost;
* `trimmed_joined`: no blank comes to stand at the ends;
* `lowered_joined`: texts joined by single spaces can be set in lowercase one by one.
-/

namespace MarketBrief.Text

open Unicode

theorem joined_eq_intercalate (separator : String) (texts : List String) :
    joined separator texts = separator.intercalate texts :=
  String.toList_inj.1 (by rw [toList_joined, String.toList_intercalate])

theorem joined_singleton (separator text : String) : joined separator [text] = text := by
  rw [joined_eq_intercalate, String.intercalate_singleton]

theorem toList_joined_cons {texts : List String} (h : texts ≠ []) (text : String) :
    (joined " " (text :: texts)).toList = text.toList ++ ' ' :: (joined " " texts).toList := by
  have hmap : texts.map String.toList ≠ [] := by simpa using h
  rw [toList_joined, toList_joined, List.map_cons, List.intercalate_cons_of_ne_nil hmap, List.append_assoc]
  rfl

theorem mem_intercalate {α : Type} {separator : List α} {x : α} {piece : List α} (hx : x ∈ piece)
    {pieces : List (List α)} (hpiece : piece ∈ pieces) : x ∈ separator.intercalate pieces := by
  induction pieces with
  | nil => simp at hpiece
  | cons first rest ih =>
    cases rest with
    | nil =>
      rw [List.mem_singleton] at hpiece
      rwa [List.intercalate_singleton, ← hpiece]
    | cons second rest =>
      rw [List.intercalate_cons_cons]
      rcases List.mem_cons.1 hpiece with rfl | hmem
      · exact List.mem_append_left _ (List.mem_append_left _ hx)
      · exact List.mem_append_right _ (ih hmem)

theorem head?_intercalate {α : Type} (separator : List α) {first : List α} (h : first ≠ []) (rest : List (List α)) :
    (separator.intercalate (first :: rest)).head? = first.head? := by
  obtain ⟨c, cs, rfl⟩ := List.exists_cons_of_ne_nil h
  cases rest with
  | nil => rw [List.intercalate_singleton]
  | cons second rest =>
    rw [List.intercalate_cons_cons, List.append_assoc, List.cons_append, List.head?_cons, List.head?_cons]

theorem getLast?_intercalate {α : Type} (separator : List α) (front : List (List α)) {last : List α} (h : last ≠ []) :
    (separator.intercalate (front ++ [last])).getLast? = last.getLast? := by
  induction front with
  | nil => rw [List.nil_append, List.intercalate_singleton]
  | cons first front ih =>
    rw [List.cons_append, List.intercalate_cons_of_ne_nil (List.append_ne_nil_of_right_ne_nil _ (List.cons_ne_nil _ _)),
      List.getLast?_append, ih, List.getLast?_eq_some_getLast h, Option.some_or]

theorem trimmed_joined {texts : List String} (h : ∀ text ∈ texts, text ≠ "" ∧ trimmed text = text) :
    trimmed (joined " " texts) = joined " " texts := by
  have hends : ∀ piece ∈ texts.map String.toList, piece ≠ [] ∧ trim piece = piece := by
    intro piece hpiece
    obtain ⟨text, htext, rfl⟩ := List.mem_map.1 hpiece
    rw [← toList_trimmed, (h text htext).2]
    exact ⟨by simpa using (h text htext).1, rfl⟩
  rw [← String.toList_inj, toList_trimmed, toList_joined]
  refine trim_of_not_blank ?_ ?_
  · cases hpieces : texts.map String.toList with
    | nil => simp
    | cons first rest =>
      obtain ⟨hne, htrim⟩ := hends first (hpieces ▸ List.mem_cons_self)
      rw [head?_intercalate _ hne]
      exact htrim ▸ not_blank_head_trim first
  · rcases List.eq_nil_or_concat (texts.map String.toList) with hpieces | ⟨front, last, hpieces⟩
    · simp [hpieces]
    · obtain ⟨hne, htrim⟩ := hends last (by simp [hpieces])
      rw [hpieces, List.concat_eq_append, getLast?_intercalate _ _ hne]
      exact htrim ▸ not_blank_last_trim last

theorem joined_ne_empty {separator text : String} {texts : List String} (hmem : text ∈ texts) (hne : text ≠ "") :
    joined separator texts ≠ "" := by
  intro heq
  obtain ⟨c, hc⟩ := List.exists_mem_of_ne_nil text.toList (by simpa using hne)
  have hin : c ∈ (joined separator texts).toList := by
    rw [toList_joined]
    exact mem_intercalate hc (List.mem_map_of_mem hmem)
  simp [heq] at hin

/-! ### Lowercase -/

theorem lower_intercalate_space (pieces : List (List Char)) :
    lower ([' '].intercalate pieces) = [' '].intercalate (pieces.map lower) := by
  induction pieces with
  | nil => rfl
  | cons first rest ih =>
    cases rest with
    | nil => simp only [List.map_cons, List.map_nil, List.intercalate_singleton]
    | cons second rest =>
      rw [List.map_cons] at ih
      rw [List.map_cons, List.map_cons, List.intercalate_cons_cons, List.intercalate_cons_cons, ← ih, List.append_assoc,
        List.append_assoc, List.singleton_append, List.singleton_append, lower_append_of_isBlank (by decide)]

theorem lowered_joined (texts : List String) : lowered (joined " " texts) = joined " " (texts.map lowered) := by
  refine String.toList_inj.1 ?_
  have hmap : (texts.map lowered).map String.toList = (texts.map String.toList).map lower := by simp
  rw [toList_lowered, toList_joined, toList_joined, hmap]
  exact lower_intercalate_space _

end MarketBrief.Text
