import Mathlib
import MarketBrief.Proofs.Sentence.Layout

/-!
# Stretches that no cut falls into

A text is cut between a mark of a run and a blank. A stretch of a text in which no blank follows such a mark, and which
has no blank at its ends, lies in one sentence wherever it stands.

* `IsUncut`: such a stretch; `IsUncut.of_solid`, `IsUncut.of_unmarked`: without blanks, or without marks;
* `placesOf`, `placesOf_pos_iff`: the number of places at which some characters stand in a text;
* `IsUncut.placesOf_append`, `IsUncut.placesOf_trim`: no place is lost or won at a cut, nor with blanks around a text;
* `IsUncut.placesOf_split`: a stretch stands in a text as often as in its sentences together;
* `exists_infix_iff_exists_mem_split`: a text has a stretch of some kind if one of its sentences has.
-/

namespace MarketBrief.Sentence

open Text Unicode

/-- A stretch of a text without blanks at its ends and without a blank behind a mark of a run. -/
structure IsUncut (p : List Char) : Prop where
  ne_nil : p ≠ []
  head : ∀ c ∈ p.head?, isBlank c = false
  last : ∀ c ∈ p.getLast?, isBlank c = false
  inside : ∀ front m b back, p = front ++ m :: b :: back → isRunMark m = true → isBlank b = false

theorem IsUncut.of_solid {p : List Char} (hne : p ≠ []) (h : ∀ c ∈ p, isBlank c = false) : IsUncut p where
  ne_nil := hne
  head c hc := h c (List.mem_of_head? hc)
  last c hc := h c (List.mem_of_getLast? hc)
  inside front m b back hp _ := h b (by simp [hp])

theorem IsUncut.of_unmarked {p : List Char} (hne : p ≠ []) (hhead : ∀ c ∈ p.head?, isBlank c = false)
    (hlast : ∀ c ∈ p.getLast?, isBlank c = false) (h : ∀ c ∈ p, isRunMark c = false) : IsUncut p where
  ne_nil := hne
  head := hhead
  last := hlast
  inside front m b back hp hm := by
    rw [h m (by simp [hp])] at hm
    exact Bool.noConfusion hm

/-! ### Places -/

/-- The number of places at which some characters stand in a text. -/
def placesOf (p cs : List Char) : Nat := cs.tails.countP p.isPrefixOf

theorem placesOf_cons (p : List Char) (c : Char) (cs : List Char) :
    placesOf p (c :: cs) = placesOf p cs + if p.isPrefixOf (c :: cs) then 1 else 0 := by
  rw [placesOf, List.tails_cons, List.countP_cons, placesOf]

theorem placesOf_pos_iff {p cs : List Char} : 0 < placesOf p cs ↔ p <:+: cs := by
  rw [placesOf, List.countP_pos_iff]
  simp only [List.mem_tails, List.isPrefixOf_iff_prefix]
  exact ⟨fun ⟨t, hsuffix, hprefix⟩ => hprefix.isInfix.trans hsuffix.isInfix, fun h =>
    let ⟨t, hprefix, hsuffix⟩ := List.infix_iff_prefix_suffix.1 h
    ⟨t, hsuffix, hprefix⟩⟩

/-! ### Blanks around a text, and cuts -/

/-- A stretch that begins in a text and ends behind it holds the seam. -/
theorem isPrefixOf_append {p front back : List Char}
    (hseam : ∀ c rest, p = front ++ c → back = c ++ rest → c = []) :
    p.isPrefixOf (front ++ back) = p.isPrefixOf front := by
  rw [Bool.eq_iff_iff, List.isPrefixOf_iff_prefix, List.isPrefixOf_iff_prefix]
  refine ⟨fun ⟨rest, heq⟩ => ?_, fun hprefix => hprefix.trans (List.prefix_append _ _)⟩
  rcases List.append_eq_append_iff.1 heq with ⟨more, hfront, -⟩ | ⟨c, hp, hback⟩
  · exact ⟨more, hfront.symm⟩
  · rw [hp, hseam c rest hp hback, List.append_nil]

namespace IsUncut

variable {p : List Char} (h : IsUncut p)

include h

theorem placesOf_blanks_append {lead : List Char} (hlead : ∀ c ∈ lead, isBlank c = true) (cs : List Char) :
    placesOf p (lead ++ cs) = placesOf p cs := by
  induction lead with
  | nil => rfl
  | cons b lead ih =>
    obtain ⟨hb, hlead⟩ := List.forall_mem_cons.1 hlead
    have hnot : p.isPrefixOf (b :: (lead ++ cs)) = false := by
      rw [← Bool.not_eq_true, List.isPrefixOf_iff_prefix]
      intro hprefix
      obtain ⟨c, rest, rfl⟩ := List.exists_cons_of_ne_nil h.ne_nil
      obtain ⟨rfl, -⟩ := List.cons_prefix_cons.1 hprefix
      rw [h.head c rfl] at hb
      exact Bool.noConfusion hb
    rw [List.cons_append, placesOf_cons, hnot, ih hlead]
    rfl

theorem placesOf_nil : placesOf p [] = 0 :=
  Nat.eq_zero_of_not_pos fun hpos => h.ne_nil (List.infix_nil.1 (placesOf_pos_iff.1 hpos))

theorem placesOf_of_blank {blanks : List Char} (hblanks : ∀ c ∈ blanks, isBlank c = true) : placesOf p blanks = 0 := by
  rw [← List.append_nil blanks, h.placesOf_blanks_append hblanks, h.placesOf_nil]

theorem placesOf_append_blanks {trail : List Char} (htrail : ∀ c ∈ trail, isBlank c = true) (cs : List Char) :
    placesOf p (cs ++ trail) = placesOf p cs := by
  have hprefix : ∀ t, p.isPrefixOf (t ++ trail) = p.isPrefixOf t := fun t =>
    isPrefixOf_append fun c rest hp htail =>
      eq_nil_of_not_blank_last (fun b hb => htrail b (htail ▸ List.mem_append_left rest hb)) t (hp ▸ h.last)
  induction cs with
  | nil => rw [List.nil_append, h.placesOf_of_blank htrail, h.placesOf_nil]
  | cons c cs ih => rw [List.cons_append, placesOf_cons, ← List.cons_append, hprefix, ih, placesOf_cons]

theorem placesOf_trim (cs : List Char) : placesOf p (trim cs) = placesOf p cs := by
  obtain ⟨lead, trail, hlead, htrail, heq⟩ := exists_eq_append_trim cs
  conv_rhs => rw [heq, h.placesOf_append_blanks htrail, h.placesOf_blanks_append hlead]

/-- A stretch that begins before a cut and ends behind it would hold a mark and the blank that follows. -/
theorem isPrefixOf_cut (start : List Char) {m : Char} (hm : isRunMark m = true) {after : List Char}
    (hafter : ∀ b ∈ after.head?, isBlank b = true) :
    p.isPrefixOf (start ++ [m] ++ after) = p.isPrefixOf (start ++ [m]) := by
  refine isPrefixOf_append fun more rest hp hrest => ?_
  cases more with
  | nil => rfl
  | cons b more =>
    have hblank : isBlank b = true := hafter b (by rw [hrest]; rfl)
    rw [h.inside start m b more (by rw [hp, List.append_assoc, List.singleton_append]) hm] at hblank
    exact Bool.noConfusion hblank

/-- No place is lost or won where a mark is followed by a blank. -/
theorem placesOf_append {front after : List Char} (hfront : ∀ m ∈ front.getLast?, isRunMark m = true)
    (hafter : ∀ b ∈ after.head?, isBlank b = true) :
    placesOf p (front ++ after) = placesOf p front + placesOf p after := by
  induction front with
  | nil => rw [List.nil_append, h.placesOf_nil, Nat.zero_add]
  | cons c front ih =>
    have htail : ∀ m ∈ front.getLast?, isRunMark m = true := fun m hm => by
      refine hfront m ?_
      rw [List.getLast?_cons, Option.mem_def.1 hm]
      rfl
    have hprefix : p.isPrefixOf (c :: front ++ after) = p.isPrefixOf (c :: front) := by
      obtain ⟨start, m, hm⟩ := (List.eq_nil_or_concat (c :: front)).resolve_left (List.cons_ne_nil _ _)
      rw [List.concat_eq_append] at hm
      rw [hm] at hfront ⊢
      exact h.isPrefixOf_cut start (hfront m (by rw [List.getLast?_concat]; rfl)) hafter
    rw [List.cons_append, placesOf_cons, ← List.cons_append, hprefix, ih htail, placesOf_cons]
    omega

theorem placesOf_splitChars (cs : List Char) : placesOf p cs = ((splitChars cs).map (placesOf p)).sum := by
  induction cs using cut_induction with
  | whole cs hpieces =>
    rw [splitChars_of_one_piece hpieces, ← h.placesOf_trim]
    split
    · next hnil => rw [hnil, h.placesOf_nil]; rfl
    · rw [List.map_singleton, List.sum_singleton]
  | cut front after hfront hafter hpieces ih =>
    rw [splitChars_of_cut hfront hpieces, List.map_cons, List.sum_cons, h.placesOf_trim, ← ih]
    exact h.placesOf_append hfront.isRunMark_last (isBlank_of_maySplitBefore hafter)

/-- A stretch stands in a text as often as in its sentences together. -/
theorem placesOf_split (text : String) :
    placesOf p text.toList = ((split text).map fun s => placesOf p s.toList).sum := by
  have hmap : (split text).map (fun s => placesOf p s.toList) = ((split text).map String.toList).map (placesOf p) := by
    rw [List.map_map]
    rfl
  rw [hmap, map_toList_split, h.placesOf_splitChars]

theorem infix_iff_exists_mem_split (text : String) : p <:+: text.toList ↔ ∃ s ∈ split text, p <:+: s.toList := by
  simp only [← placesOf_pos_iff]
  rw [h.placesOf_split, List.sum, Lists.sum_pos_iff]

end IsUncut

/-- A text has a stretch of some kind if one of its sentences has. -/
theorem exists_infix_iff_exists_mem_split {kind : List Char → Prop} (h : ∀ p, kind p → IsUncut p) (text : String) :
    (∃ p, p <:+: text.toList ∧ kind p) ↔ ∃ s ∈ split text, ∃ p, p <:+: s.toList ∧ kind p := by
  constructor
  · rintro ⟨p, hin, hp⟩
    obtain ⟨s, hs, hin⟩ := ((h p hp).infix_iff_exists_mem_split text).1 hin
    exact ⟨s, hs, p, hin, hp⟩
  · rintro ⟨s, hs, p, hin, hp⟩
    exact ⟨p, ((h p hp).infix_iff_exists_mem_split text).2 ⟨s, hs, hin⟩, hp⟩

end MarketBrief.Sentence
