import MarketBrief.Proofs.Lists
import MarketBrief.Proofs.Sentence.Pieces

/-!
# A text is its sentences and the gaps between them

* `splitChars_of_one_piece`, `splitChars_of_cut`: the sentences of a text, one cut at a time;
* `split_of_isBlankText`: a blank text has none;
* `AreGaps`, `exists_gaps`: blanks before the first sentence and behind each one make the text whole again;
* `split_layout`: splitting loses nothing and adds nothing.
-/

namespace MarketBrief.Sentence

open Text Unicode

/-! ### The sentences, one cut at a time -/

theorem splitChars_of_one_piece {cs : List Char} (h : pieces [] cs = [cs]) :
    splitChars cs = if trim cs = [] then [] else [trim cs] := by
  rw [splitChars, h, List.map_singleton]
  by_cases hnil : trim cs = []
  · rw [if_pos hnil, List.filter_cons_of_neg (by simpa using hnil), List.filter_nil]
  · rw [if_neg hnil, List.filter_cons_of_pos (by simpa using hnil), List.filter_nil]

/-- A terminated text has blanks in front only. -/
theorem IsTerminated.exists_eq_append_trim {cs : List Char} (h : IsTerminated cs) :
    ∃ lead, (∀ c ∈ lead, isBlank c = true) ∧ cs = lead ++ trim cs ∧ trim cs ≠ [] := by
  obtain ⟨lead, trail, hlead, htrail, heq⟩ := Text.exists_eq_append_trim cs
  obtain rfl := eq_nil_of_not_blank_last htrail _ (heq ▸ h.not_blank_last)
  rw [List.append_nil] at heq
  refine ⟨lead, hlead, heq, fun hnil => h.ne_nil ?_⟩
  rw [hnil, List.append_nil] at heq
  rw [heq]
  exact eq_nil_of_not_blank_last hlead [] (heq ▸ h.not_blank_last)

theorem splitChars_of_cut {front after : List Char} (hfront : IsTerminated front)
    (h : pieces [] (front ++ after) = front :: pieces [] after) :
    splitChars (front ++ after) = trim front :: splitChars after := by
  obtain ⟨-, -, -, hne⟩ := hfront.exists_eq_append_trim
  rw [splitChars, h, List.map_cons, List.filter_cons_of_pos (by simpa using hne), splitChars]

theorem mem_splitChars_iff {cs s : List Char} :
    s ∈ splitChars cs ↔ s ≠ [] ∧ ∃ piece ∈ pieces [] cs, trim piece = s := by
  rw [splitChars, List.mem_filter, List.mem_map, decide_eq_true_eq, and_comm]

theorem trim_of_mem_splitChars {cs s : List Char} (h : s ∈ splitChars cs) : trim s = s := by
  obtain ⟨-, piece, -, rfl⟩ := mem_splitChars_iff.1 h
  exact trim_trim piece

theorem not_blank_head_of_mem_splitChars {cs s : List Char} (h : s ∈ splitChars cs) :
    ∀ c ∈ s.head?, isBlank c = false := by
  rw [← trim_of_mem_splitChars h]
  exact not_blank_head_trim s

theorem not_blank_last_of_mem_splitChars {cs s : List Char} (h : s ∈ splitChars cs) :
    ∀ c ∈ s.getLast?, isBlank c = false := by
  rw [← trim_of_mem_splitChars h]
  exact not_blank_last_trim s

theorem infix_of_mem_splitChars {cs s : List Char} (h : s ∈ splitChars cs) : s <:+: cs := by
  obtain ⟨-, piece, hpiece, rfl⟩ := mem_splitChars_iff.1 h
  have hin : piece <:+: cs := by simpa [flatten_pieces] using List.infix_of_mem_flatten hpiece
  exact (isInfix_trim piece).trans hin

theorem splitChars_of_blank {cs : List Char} (h : ∀ c ∈ cs, isBlank c = true) : splitChars cs = [] := by
  refine List.eq_nil_iff_forall_not_mem.2 fun s hs => ?_
  obtain ⟨c, rest, rfl⟩ := List.exists_cons_of_ne_nil (mem_splitChars_iff.1 hs).1
  have hc := not_blank_head_of_mem_splitChars hs c rfl
  rw [h c ((infix_of_mem_splitChars hs).subset List.mem_cons_self)] at hc
  exact Bool.noConfusion hc

theorem split_of_isBlankText {text : String} (h : isBlankText text = true) : split text = [] := by
  rw [split, splitChars_of_blank (List.all_eq_true.1 h), List.map_nil]

/-! ### Gaps -/

/-- Gaps for a text and its sentences: `lead` stands before all sentences and the others behind one sentence each. All
are blank, and none between two sentences is empty. -/
structure AreGaps (text : List Char) (sentences : List (List Char)) (lead : List Char) (gaps : List (List Char)) :
    Prop where
  length_eq : gaps.length = sentences.length
  text_eq : text = lead ++ (List.zipWith (· ++ ·) sentences gaps).flatten
  blank : ∀ gap ∈ lead :: gaps, ∀ c ∈ gap, isBlank c = true
  inner_ne_nil : ∀ gap ∈ gaps.dropLast, gap ≠ []

theorem AreGaps.of_blank {blanks : List Char} (h : ∀ c ∈ blanks, isBlank c = true) : AreGaps blanks [] blanks [] where
  length_eq := rfl
  text_eq := (List.append_nil blanks).symm
  blank := by simpa using h
  inner_ne_nil := by simp

theorem AreGaps.cons {text : List Char} {sentences : List (List Char)} {next : List Char} {gaps : List (List Char)}
    (h : AreGaps text sentences next gaps) (hnext : sentences ≠ [] → next ≠ []) {lead : List Char}
    (hlead : ∀ c ∈ lead, isBlank c = true) (s : List Char) :
    AreGaps (lead ++ s ++ text) (s :: sentences) lead (next :: gaps) where
  length_eq := by rw [List.length_cons, List.length_cons, h.length_eq]
  text_eq := by rw [List.zipWith_cons_cons, List.flatten_cons, List.append_assoc s, ← h.text_eq, List.append_assoc]
  blank := List.forall_mem_cons.2 ⟨hlead, h.blank⟩
  inner_ne_nil := by
    by_cases hgaps : gaps = []
    · simp [hgaps]
    · have hsentences : sentences ≠ [] := by
        rw [← List.length_pos_iff, ← h.length_eq, List.length_pos_iff]
        exact hgaps
      rw [List.dropLast_cons_of_ne_nil hgaps]
      exact List.forall_mem_cons.2 ⟨hnext hsentences, h.inner_ne_nil⟩

/-- Nothing but blanks lies outside the sentences. -/
theorem AreGaps.filter_not_blank {text : List Char} {sentences : List (List Char)} {lead : List Char}
    {gaps : List (List Char)} (h : AreGaps text sentences lead gaps) :
    text.filter (!isBlank ·) = sentences.flatten.filter (!isBlank ·) := by
  obtain ⟨hlength, htext, hblank, -⟩ := h
  induction sentences generalizing text lead gaps with
  | nil =>
    obtain rfl := List.length_eq_zero_iff.1 hlength
    rw [htext, List.filter_append, List.filter_eq_nil_iff.2 fun c hc => by simp [hblank lead List.mem_cons_self c hc]]
    rfl
  | cons s sentences ih =>
    obtain ⟨gap, gaps, rfl⟩ := List.exists_cons_of_length_eq_add_one hlength
    obtain ⟨hlead, hgaps⟩ := List.forall_mem_cons.1 hblank
    have hrest := ih (Nat.succ.inj hlength) rfl hgaps
    rw [htext, List.zipWith_cons_cons, List.flatten_cons, List.append_assoc, List.filter_append,
      List.filter_eq_nil_iff.2 fun c hc => by simp [hlead c hc], List.nil_append, List.filter_append, hrest,
      List.flatten_cons, List.filter_append]

theorem AreGaps.head?_eq {text s : List Char} {sentences gaps : List (List Char)}
    (h : AreGaps text (s :: sentences) [] gaps) (hs : s ≠ []) : text.head? = s.head? := by
  obtain ⟨gap, gaps, rfl⟩ := List.exists_cons_of_length_eq_add_one h.length_eq
  rw [h.text_eq, List.nil_append, List.zipWith_cons_cons, List.flatten_cons, List.append_assoc,
    List.head?_append_of_ne_nil _ hs]

theorem exists_gaps (cs : List Char) : ∃ lead gaps, AreGaps cs (splitChars cs) lead gaps := by
  induction cs using cut_induction with
  | whole cs h =>
    obtain ⟨lead, trail, hlead, htrail, heq⟩ := exists_eq_append_trim cs
    rw [splitChars_of_one_piece h]
    split
    · next hnil =>
      rw [hnil, List.append_nil] at heq
      exact ⟨cs, [], .of_blank (heq ▸ List.forall_mem_append.2 ⟨hlead, htrail⟩)⟩
    · refine ⟨lead, [trail], ?_⟩
      have := (AreGaps.of_blank htrail).cons (fun hne => absurd rfl hne) hlead (trim cs)
      rwa [← heq] at this
  | cut front after hfront hafter hpieces ih =>
    obtain ⟨next, gaps, hgaps⟩ := ih
    obtain ⟨lead, hlead, heq, -⟩ := hfront.exists_eq_append_trim
    -- the text was cut at a blank, which no sentence begins with
    have hnext : splitChars after ≠ [] → next ≠ [] := by
      rintro hne rfl
      obtain ⟨s, sentences, hsplit⟩ := List.exists_cons_of_ne_nil hne
      have hs : s ∈ splitChars after := hsplit ▸ List.mem_cons_self
      obtain ⟨c, rest, rfl⟩ := List.exists_cons_of_ne_nil (mem_splitChars_iff.1 hs).1
      have hhead : after.head? = some c := (hsplit ▸ hgaps).head?_eq (List.cons_ne_nil _ _)
      have hno := not_blank_head_of_mem_splitChars hs c rfl
      rw [isBlank_of_maySplitBefore hafter c hhead] at hno
      exact absurd hno Bool.noConfusion
    have := hgaps.cons hnext hlead (trim front)
    rw [← heq, ← splitChars_of_cut hfront hpieces] at this
    exact ⟨lead, next :: gaps, this⟩

theorem map_toList_split (text : String) : (split text).map String.toList = splitChars text.toList :=
  Lists.map_toList_map_ofList _

theorem mem_splitChars_of_mem_split {text s : String} (h : s ∈ split text) : s.toList ∈ splitChars text.toList :=
  map_toList_split text ▸ List.mem_map_of_mem h

theorem ne_empty_of_mem_split {text s : String} (h : s ∈ split text) : s ≠ "" := fun hempty =>
  (mem_splitChars_iff.1 (mem_splitChars_of_mem_split h)).1 (String.toList_eq_nil_iff.2 hempty)

theorem trimmed_of_mem_split {text s : String} (h : s ∈ split text) : trimmed s = s := by
  rw [← String.toList_inj, toList_trimmed, trim_of_mem_splitChars (mem_splitChars_of_mem_split h)]

/-- **Nothing is lost and nothing added.** A text is its sentences with blanks around them, at least one between two
sentences. Each sentence stands in the text as it is, without blanks at its ends, and all characters of the text but the
blanks are in the sentences, in their order. -/
theorem split_layout (text : String) :
    (∃ lead gaps, AreGaps text.toList ((split text).map String.toList) lead gaps) ∧
      (∀ s ∈ split text, s ≠ "" ∧ (∀ c ∈ s.toList.head?, isBlank c = false) ∧
        (∀ c ∈ s.toList.getLast?, isBlank c = false) ∧ s.toList <:+: text.toList) ∧
      ((split text).map String.toList).flatten.filter (!isBlank ·) = text.toList.filter (!isBlank ·) := by
  rw [map_toList_split]
  obtain ⟨lead, gaps, hgaps⟩ := exists_gaps text.toList
  refine ⟨⟨lead, gaps, hgaps⟩, fun s hs => ?_, hgaps.filter_not_blank.symm⟩
  have hmem := mem_splitChars_of_mem_split hs
  exact ⟨ne_empty_of_mem_split hs, not_blank_head_of_mem_splitChars hmem, not_blank_last_of_mem_splitChars hmem,
    infix_of_mem_splitChars hmem⟩

end MarketBrief.Sentence
