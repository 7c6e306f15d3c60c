import MarketBrief.Proofs.Sentence.Layout
import MarketBrief.Proofs.Text.Joined

/-!
# Splitting a text again

A sentence of a text that is not its last one ends where a sentence ends in any text, and one that is not its first
begins as a sentence may. So a space between them is enough for a cut, whatever stood between them.

* `Separates`, `pairwise_separates_splitChars`: each sentence of a text and each later one are told apart by a space;
* `splitChars_of_mem_splitChars`: a sentence is split into itself;
* `splitChars_intercalate`: such sentences, joined by spaces, are split into the same sentences;
* `split_joined_of_sublist`: any choice of sentences of a text comes back when it is joined and split again;
* `split_joined_split`: all of them do, and each by itself.
-/

namespace MarketBrief.Sentence

open Text Unicode

/-! ### Trimmed pieces -/

theorem pieces_blanks {blanks : List Char} (hblanks : ∀ c ∈ blanks, isBlank c = true) (piece : List Char) :
    pieces piece blanks = [piece.reverse ++ blanks] := by
  have h := pieces_append_of_not_terminal (fun c hc => isTerminal_of_isBlank (hblanks c hc)) piece []
  rwa [List.append_nil, pieces, List.reverse_append, List.reverse_reverse] at h

theorem maySplitBefore_blanks {blanks : List Char} (hblanks : ∀ c ∈ blanks, isBlank c = true) :
    maySplitBefore blanks = true := by
  rw [maySplitBefore, List.dropWhile_eq_nil_iff.2 hblanks, Bool.and_eq_true]
  refine ⟨?_, rfl⟩
  cases blanks with
  | nil => rfl
  | cons b blanks => exact hblanks b List.mem_cons_self

/-- Without the blanks at its ends a text is cut as often as with them. -/
theorem length_pieces_trim (cs : List Char) : (pieces [] (trim cs)).length = (pieces [] cs).length := by
  obtain ⟨lead, trail, hlead, htrail, heq⟩ := exists_eq_append_trim cs
  obtain ⟨front, last, hpieces, happend⟩ := exists_pieces_append (maySplitBefore_blanks htrail) [] (trim cs)
  have hlength : (pieces [] cs).length = (pieces [] (trim cs ++ trail)).length := by
    conv_lhs => rw [heq, List.append_assoc, pieces_blanks_append hlead, List.length_modifyHead]
  rw [hlength, happend, hpieces, pieces_blanks htrail, List.length_append, List.length_append]
  rfl

theorem pieces_trim_of_one_piece {cs : List Char} (h : pieces [] cs = [cs]) : pieces [] (trim cs) = [trim cs] := by
  have hlength := length_pieces_trim cs
  rw [h] at hlength
  obtain ⟨piece, hpiece⟩ := List.length_eq_one_iff.1 hlength
  have hself : piece = trim cs := by simpa [hpiece] using flatten_pieces [] (trim cs)
  rw [hpiece, hself]

theorem IsFinished.trim {cs : List Char} (h : IsFinished cs) (hterm : IsTerminated cs) : IsFinished (trim cs) := by
  obtain ⟨lead, hlead, heq, -⟩ := hterm.exists_eq_append_trim
  have hpieces : (pieces [] (Text.trim cs)).modifyHead (lead ++ ·) = [lead ++ Text.trim cs, []] := by
    rw [← pieces_blanks_append hlead, ← heq]
    exact h
  obtain ⟨first, rest, hfirst⟩ := List.exists_cons_of_ne_nil (pieces_ne_nil [] (Text.trim cs))
  rw [hfirst, List.modifyHead_cons, List.cons.injEq, List.append_cancel_left_eq] at hpieces
  rw [IsFinished, hfirst, hpieces.1, hpieces.2]

/-! ### Beginnings and ends -/

theorem opensSentence_of_isBlank {c : Char} (h : isBlank c = true) : opensSentence c = false := by
  have : (!opensSentence c) = true := of_covers (P := fun c => !opensSentence c) (by decide +kernel) h
  simpa using this

/-- A space is enough to cut between the two: the first is finished, and the second begins as a sentence may. -/
structure Separates (s t : List Char) : Prop where
  finished : IsFinished s
  opens : ∀ c ∈ t.head?, opensSentence c = true

theorem splitChars_of_isFinished {s : List Char} (h : IsFinished s) (hne : s ≠ []) (htrim : trim s = s) :
    splitChars s = [s] := by
  rw [splitChars, h, List.map_cons, htrim, List.map_singleton, List.filter_cons_of_pos (by simpa using hne)]
  rfl

theorem splitChars_of_mem_splitChars {cs s : List Char} (h : s ∈ splitChars cs) : splitChars s = [s] := by
  induction cs using cut_induction with
  | whole cs hpieces =>
    rw [splitChars_of_one_piece hpieces] at h
    split at h
    · exact absurd h List.not_mem_nil
    · next hne =>
      obtain rfl := List.mem_singleton.1 h
      rw [splitChars_of_one_piece (pieces_trim_of_one_piece hpieces), trim_trim, if_neg hne]
  | cut front after hfront hafter hpieces ih =>
    rw [splitChars_of_cut hfront hpieces] at h
    rcases List.mem_cons.1 h with rfl | h
    · obtain ⟨-, -, -, hne⟩ := hfront.exists_eq_append_trim
      exact splitChars_of_isFinished ((isFinished_of_cut hafter hpieces).trim hfront) hne (trim_trim front)
    · exact ih h

theorem opensSentence_of_maySplitBefore {lead cs rest : List Char} (hlead : ∀ c ∈ lead, isBlank c = true)
    (h : maySplitBefore (lead ++ cs ++ rest) = true) (hcs : ∀ c ∈ cs.head?, isBlank c = false) :
    ∀ c ∈ cs.head?, opensSentence c = true := by
  cases cs with
  | nil => simp
  | cons c cs =>
    have hdrop : (lead ++ c :: cs ++ rest).dropWhile isBlank = c :: cs ++ rest := by
      rw [List.append_assoc, List.dropWhile_append_of_pos hlead]
      exact List.dropWhile_cons_of_neg (by rw [hcs c rfl]; exact Bool.noConfusion)
    rw [maySplitBefore, hdrop, Bool.and_eq_true] at h
    simpa using h.2

theorem opensSentence_of_mem_splitChars {cs : List Char} (hcs : maySplitBefore cs = true) {s : List Char}
    (h : s ∈ splitChars cs) : ∀ c ∈ s.head?, opensSentence c = true := by
  induction cs using cut_induction with
  | whole cs hpieces =>
    rw [splitChars_of_one_piece hpieces] at h
    split at h
    · exact absurd h List.not_mem_nil
    · obtain rfl := List.mem_singleton.1 h
      obtain ⟨lead, trail, hlead, -, heq⟩ := exists_eq_append_trim cs
      exact opensSentence_of_maySplitBefore hlead (heq ▸ hcs) (not_blank_head_trim cs)
  | cut front after hfront hafter hpieces ih =>
    rw [splitChars_of_cut hfront hpieces] at h
    rcases List.mem_cons.1 h with rfl | h
    · obtain ⟨lead, hlead, heq, -⟩ := hfront.exists_eq_append_trim
      exact opensSentence_of_maySplitBefore hlead (heq ▸ hcs) (not_blank_head_trim front)
    · exact ih hafter h

theorem pairwise_separates_splitChars (cs : List Char) : (splitChars cs).Pairwise Separates := by
  induction cs using cut_induction with
  | whole cs hpieces =>
    rw [splitChars_of_one_piece hpieces]
    split
    · exact .nil
    · exact List.pairwise_singleton _ _
  | cut front after hfront hafter hpieces ih =>
    rw [splitChars_of_cut hfront hpieces]
    exact .cons (fun s hs => ⟨(isFinished_of_cut hafter hpieces).trim hfront,
      opensSentence_of_mem_splitChars hafter hs⟩) ih

/-! ### Joining and splitting -/

theorem maySplitBefore_space {cs : List Char} (h : ∀ c ∈ cs.head?, opensSentence c = true) :
    maySplitBefore (' ' :: cs) = true := by
  have hhead : ∀ c ∈ cs.head?, isBlank c = false := by
    intro c hc
    cases hblank : isBlank c with
    | false => rfl
    | true => rw [← h c hc, opensSentence_of_isBlank hblank]
  have hspace : isBlank ' ' = true := by decide
  rw [maySplitBefore, List.dropWhile_cons_of_pos hspace, dropWhile_of_head?_eq_false hhead, List.head?_cons,
    Option.all_some, hspace, Bool.true_and]
  cases cs with
  | nil => rfl
  | cons c cs => exact h c rfl

theorem splitChars_blanks_append {blanks : List Char} (hblanks : ∀ c ∈ blanks, isBlank c = true) (cs : List Char) :
    splitChars (blanks ++ cs) = splitChars cs := by
  obtain ⟨first, rest, hpieces⟩ := List.exists_cons_of_ne_nil (pieces_ne_nil [] cs)
  have htrim : trim (blanks ++ first) = trim first := by
    rw [trim, trim, trimStart, List.dropWhile_append_of_pos hblanks, trimStart]
  rw [splitChars, splitChars, pieces_blanks_append hblanks, hpieces, List.modifyHead_cons, List.map_cons, htrim,
    List.map_cons]

theorem splitChars_append_space {s cs : List Char} (hs : IsFinished s) (hself : splitChars s = [s])
    (hcs : ∀ c ∈ cs.head?, opensSentence c = true) : splitChars (s ++ ' ' :: cs) = s :: splitChars cs := by
  have hmem : s ∈ splitChars s := hself ▸ List.mem_singleton_self s
  have hspace : ∀ c ∈ [' '], isBlank c = true := List.forall_mem_singleton.2 (by decide)
  rw [← splitChars_blanks_append hspace cs, splitChars, hs.pieces_append (maySplitBefore_space hcs), List.map_cons,
    trim_of_mem_splitChars hmem, List.filter_cons_of_pos (by simpa using (mem_splitChars_iff.1 hmem).1)]
  rfl

theorem splitChars_intercalate {sentences : List (List Char)} (hself : ∀ s ∈ sentences, splitChars s = [s])
    (hseparates : sentences.Pairwise Separates) : splitChars ([' '].intercalate sentences) = sentences := by
  induction sentences with
  | nil => simp [splitChars, pieces, trim, trimStart, trimEnd]
  | cons s sentences ih =>
    obtain ⟨hs, hrest⟩ := List.forall_mem_cons.1 hself
    obtain ⟨hfirst, hlater⟩ := List.pairwise_cons.1 hseparates
    cases sentences with
    | nil => rw [List.intercalate_singleton, hs]
    | cons t sentences =>
      have hsep := hfirst t List.mem_cons_self
      have ht : t ∈ splitChars t := hrest t List.mem_cons_self ▸ List.mem_singleton_self t
      have hopens : ∀ c ∈ ([' '].intercalate (t :: sentences)).head?, opensSentence c = true := by
        rw [head?_intercalate _ (mem_splitChars_iff.1 ht).1]
        exact hsep.opens
      rw [List.intercalate_cons_cons, List.append_assoc, List.singleton_append,
        splitChars_append_space hsep.finished hs hopens, ih hrest hlater]

/-- Any choice of sentences of a text is what its joined form is split into. -/
theorem split_joined_of_sublist {text : String} {sentences : List String} (h : sentences.Sublist (split text)) :
    split (joined " " sentences) = sentences := by
  have hsub : (sentences.map String.toList).Sublist (splitChars text.toList) := map_toList_split text ▸ h.map _
  have hself : ∀ s ∈ sentences.map String.toList, splitChars s = [s] := fun s hs =>
    splitChars_of_mem_splitChars (hsub.subset hs)
  have hsplit := splitChars_intercalate hself ((pairwise_separates_splitChars text.toList).sublist hsub)
  have hspace : " ".toList = [' '] := rfl
  have hstored : String.ofList ∘ String.toList = id := funext fun _ => String.ofList_toList
  rw [split, toList_joined, hspace, hsplit, List.map_map, hstored, List.map_id]

/-- **Splitting again changes nothing**, neither of all sentences of a text, joined by single spaces, nor of one of
them. -/
theorem split_joined_split (text : String) :
    split (joined " " (split text)) = split text ∧ ∀ s ∈ split text, split s = [s] := by
  refine ⟨split_joined_of_sublist (List.Sublist.refl _), fun s hs => ?_⟩
  have := split_joined_of_sublist (List.singleton_sublist.2 hs)
  rwa [joined_singleton] at this

end MarketBrief.Sentence
