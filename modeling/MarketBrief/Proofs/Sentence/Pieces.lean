import MarketBrief.Proofs.Sentence.Cuts
import MarketBrief.Proofs.Text.Trim

/-!
# How pieces follow on each other

What stands behind a place where a sentence may end has no influence on the cuts before it, and blanks at the beginning
of a piece have none on the cuts behind them. So each piece can be looked at by itself.

* `pieces_append_blanks`, `pieces_blanks_append`: blanks in front only lengthen the first piece;
* `exists_pieces_append`: the pieces of a text whose end is where a sentence may end;
* `pieces_cases`, `cut_induction`: a text is one piece, or a terminated piece and a text that lets it end;
* `IsFinished`, `isFinished_of_cut`: a piece before a cut is cut nowhere but at its end, whatever follows it.
-/

namespace MarketBrief.Sentence

open MarketBrief.Lists Text Unicode

/-! ### One run at a time -/

theorem pieces_cons_of_terminal {c : Char} (hc : isTerminal c = true) (piece cs : List Char) :
    pieces piece (c :: cs) =
      if isBoundary piece (c :: cs.takeWhile isRunMark) (cs.dropWhile isRunMark) then
        (piece.reverse ++ c :: cs.takeWhile isRunMark) :: pieces [] (cs.dropWhile isRunMark)
      else pieces ((c :: cs.takeWhile isRunMark).reverse ++ piece) (cs.dropWhile isRunMark) := by
  rw [pieces, if_pos hc]

theorem pieces_cons_of_not_terminal {c : Char} (hc : isTerminal c = false) (piece cs : List Char) :
    pieces piece (c :: cs) = pieces (c :: piece) cs := by
  rw [pieces, if_neg (by rw [hc]; exact Bool.noConfusion)]

theorem isTerminal_of_isBlank {b : Char} (hb : isBlank b = true) : isTerminal b = false := by
  cases hterm : isTerminal b with
  | false => rfl
  | true => rw [isBlank_of_isRunMark (isRunMark_of_isTerminal hterm)] at hb; exact absurd hb Bool.noConfusion

theorem pieces_append_of_not_terminal {front : List Char} (hfront : ∀ c ∈ front, isTerminal c = false)
    (piece cs : List Char) : pieces piece (front ++ cs) = pieces (front.reverse ++ piece) cs := by
  induction front generalizing piece with
  | nil => rfl
  | cons c front ih =>
    obtain ⟨hc, hfront⟩ := List.forall_mem_cons.1 hfront
    rw [List.cons_append, pieces_cons_of_not_terminal hc, ih hfront, List.reverse_cons, List.append_assoc,
      List.singleton_append]

/-! ### Blanks in front of a piece -/

theorem endsInLabelWord_append_blanks {blanks : List Char} (hblanks : ∀ c ∈ blanks, isBlank c = true)
    (before : List Char) : endsInLabelWord (before ++ blanks) = endsInLabelWord before := by
  unfold endsInLabelWord
  cases blanks with
  | nil => rw [List.append_nil]
  | cons b blanks =>
    have hb : isBlank b = true := hblanks b List.mem_cons_self
    rw [List.dropWhile_append]
    split
    · next hempty =>
      -- nothing but blanks: neither text has a last word
      rw [List.isEmpty_iff.1 hempty, List.dropWhile_eq_nil_iff.2 hblanks]
    · rw [takeWhile_append_cons (by simp [hb])]

theorem endsAbbreviated_append_blanks {blanks : List Char} (hblanks : ∀ c ∈ blanks, isBlank c = true)
    (before : List Char) : endsAbbreviated (before ++ blanks) = endsAbbreviated before := by
  cases blanks with
  | nil => rw [List.append_nil]
  | cons b rest =>
    have hb := isAbbreviationChar_of_isBlank (hblanks b List.mem_cons_self)
    unfold endsAbbreviated
    rw [takeWhile_append_cons hb, dropWhile_append_cons hb, endsInLabelWord_append_blanks hblanks]

section Blanks

variable {blanks : List Char} (hblanks : ∀ c ∈ blanks, isBlank c = true)

include hblanks

theorem isBoundary_append_blanks (before run after : List Char) :
    isBoundary (before ++ blanks) run after = isBoundary before run after := by
  rw [isBoundary, isBoundary, endsAbbreviated_append_blanks hblanks]

theorem pieces_append_blanks (piece cs : List Char) :
    pieces (piece ++ blanks) cs = (pieces piece cs).modifyHead (blanks.reverse ++ ·) := by
  fun_induction pieces piece cs with
  | case1 piece => rw [pieces, List.reverse_append, List.modifyHead_cons]
  | case2 piece c cs hc run after hb _ =>
    rw [pieces_cons_of_terminal hc, isBoundary_append_blanks hblanks, if_pos hb, List.reverse_append,
      List.append_assoc, List.modifyHead_cons]
  | case3 piece c cs hc run after hb ih =>
    rw [pieces_cons_of_terminal hc, isBoundary_append_blanks hblanks, if_neg hb, ← List.append_assoc, ih]
  | case4 piece c cs hc ih =>
    rw [pieces_cons_of_not_terminal (by simpa using hc), ← List.cons_append, ih]

theorem pieces_blanks_append (cs : List Char) : pieces [] (blanks ++ cs) = (pieces [] cs).modifyHead (blanks ++ ·) := by
  have hreverse : ∀ c ∈ blanks.reverse, isBlank c = true := by simpa using hblanks
  rw [pieces_append_of_not_terminal fun c hc => isTerminal_of_isBlank (hblanks c hc), List.append_nil,
    ← List.nil_append blanks.reverse, pieces_append_blanks hreverse, List.reverse_reverse]

end Blanks

/-! ### Text behind the end of a sentence -/

theorem maySplitBefore_append {after : List Char} (h : maySplitBefore after = true) (cs : List Char) :
    maySplitBefore (cs ++ after) = maySplitBefore cs := by
  cases cs with
  | nil => rw [List.nil_append, h]; rfl
  | cons c cs =>
    rw [maySplitBefore, maySplitBefore, List.cons_append, List.head?_cons, List.head?_cons, ← List.cons_append,
      List.dropWhile_append]
    split
    · next hempty =>
      -- the look-ahead reaches what follows, which lets a sentence end by itself
      have hafter : (after.dropWhile isBlank).head?.all opensSentence = true := by
        simp only [maySplitBefore, Bool.and_eq_true] at h
        exact h.2
      rw [List.isEmpty_iff.1 hempty, hafter]
      rfl
    · next hsome =>
      rw [List.head?_append_of_ne_nil _ (by simpa using hsome)]

theorem isBoundary_append {after : List Char} (h : maySplitBefore after = true) (before run cs : List Char) :
    isBoundary before run (cs ++ after) = isBoundary before run cs := by
  rw [isBoundary, isBoundary, maySplitBefore_append h]

/-- A run is not continued by what follows the end of a sentence. -/
theorem span_isRunMark_append {after : List Char} (h : maySplitBefore after = true) (cs : List Char) :
    (cs ++ after).takeWhile isRunMark = cs.takeWhile isRunMark ∧
      (cs ++ after).dropWhile isRunMark = cs.dropWhile isRunMark ++ after := by
  cases after with
  | nil => simp
  | cons b after =>
    have hb : isRunMark b = false := by
      cases hmark : isRunMark b with
      | false => rfl
      | true => rw [← isBlank_of_maySplitBefore h b rfl, isBlank_of_isRunMark hmark]
    exact ⟨takeWhile_append_cons hb _ _, dropWhile_append_cons hb _ _⟩

/-- Behind a place where a sentence may end, the cuts before it stay what they were. -/
theorem exists_pieces_append {after : List Char} (h : maySplitBefore after = true) (piece cs : List Char) :
    ∃ front last, pieces piece cs = front ++ [last] ∧
      pieces piece (cs ++ after) = front ++ pieces last.reverse after := by
  fun_induction pieces piece cs with
  | case1 piece => exact ⟨[], piece.reverse, rfl, by rw [List.reverse_reverse]; rfl⟩
  | case2 piece c cs hc run rest hb ih =>
    obtain ⟨hmarks, hrest⟩ := span_isRunMark_append h cs
    obtain ⟨front, last, hpieces, happend⟩ := ih
    refine ⟨(piece.reverse ++ run) :: front, last, by rw [hpieces, List.cons_append], ?_⟩
    rw [List.cons_append, pieces_cons_of_terminal hc, hmarks, hrest, isBoundary_append h, if_pos hb, happend,
      List.cons_append]
  | case3 piece c cs hc run rest hb ih =>
    obtain ⟨hmarks, hrest⟩ := span_isRunMark_append h cs
    obtain ⟨front, last, hpieces, happend⟩ := ih
    refine ⟨front, last, hpieces, ?_⟩
    rw [List.cons_append, pieces_cons_of_terminal hc, hmarks, hrest, isBoundary_append h, if_neg hb, happend]
  | case4 piece c cs hc ih =>
    obtain ⟨front, last, hpieces, happend⟩ := ih
    refine ⟨front, last, hpieces, ?_⟩
    rw [List.cons_append, pieces_cons_of_not_terminal (by simpa using hc), happend]

/-! ### One cut at a time -/

/-- The text ends in a terminal mark and perhaps further marks of a run. -/
def IsTerminated (cs : List Char) : Prop :=
  ∃ before c marks, cs = before ++ c :: marks ∧ isTerminal c = true ∧ ∀ m ∈ marks, isRunMark m = true

theorem IsTerminated.ne_nil {cs : List Char} (h : IsTerminated cs) : cs ≠ [] := by
  obtain ⟨before, c, marks, rfl, -⟩ := h
  exact List.append_ne_nil_of_right_ne_nil _ (List.cons_ne_nil _ _)

theorem IsTerminated.append {cs : List Char} (h : IsTerminated cs) (front : List Char) :
    IsTerminated (front ++ cs) := by
  obtain ⟨before, c, marks, rfl, hc, hmarks⟩ := h
  exact ⟨front ++ before, c, marks, (List.append_assoc ..).symm, hc, hmarks⟩

theorem IsTerminated.isRunMark_last {cs : List Char} (h : IsTerminated cs) :
    ∀ m ∈ cs.getLast?, isRunMark m = true := by
  obtain ⟨before, c, marks, rfl, hc, hmarks⟩ := h
  intro m hm
  rw [List.getLast?_append_cons] at hm
  rcases List.mem_cons.1 (List.mem_of_getLast? hm) with rfl | hm
  · exact isRunMark_of_isTerminal hc
  · exact hmarks m hm

theorem IsTerminated.not_blank_last {cs : List Char} (h : IsTerminated cs) : ∀ c ∈ cs.getLast?, isBlank c = false :=
  fun m hm => isBlank_of_isRunMark (h.isRunMark_last m hm)

/-- A text is one piece, or its first piece is terminated and what follows lets a sentence end. -/
theorem pieces_cases (piece cs : List Char) :
    pieces piece cs = [piece.reverse ++ cs] ∨
      ∃ front after, IsTerminated front ∧ maySplitBefore after = true ∧ cs = front ++ after ∧
        pieces piece cs = (piece.reverse ++ front) :: pieces [] after := by
  fun_induction pieces piece cs with
  | case1 piece => exact Or.inl (by rw [List.append_nil])
  | case2 piece c cs hc run after hb _ =>
    have hrun : IsTerminated run := ⟨[], c, cs.takeWhile isRunMark, rfl, hc, fun m => List.mem_takeWhile_imp⟩
    refine Or.inr ⟨run, after, hrun, maySplitBefore_of_isBoundary hb, ?_, rfl⟩
    rw [List.cons_append, List.takeWhile_append_dropWhile]
  | case3 piece c cs hc run after hb ih =>
    have hcs : c :: cs = run ++ after := by rw [List.cons_append, List.takeWhile_append_dropWhile]
    rcases ih with hone | ⟨front, rest, hfront, hrest, hafter, hpieces⟩
    · left
      rw [hone, hcs, List.reverse_append, List.reverse_reverse, List.append_assoc]
    · right
      refine ⟨run ++ front, rest, hfront.append run, hrest, by rw [hcs, hafter, List.append_assoc], ?_⟩
      rw [hpieces, List.reverse_append, List.reverse_reverse, List.append_assoc]
  | case4 piece c cs hc ih =>
    rcases ih with hone | ⟨front, rest, hfront, hrest, hafter, hpieces⟩
    · left
      rw [hone, List.reverse_cons, List.append_assoc, List.singleton_append]
    · right
      refine ⟨c :: front, rest, hfront.append [c], hrest, by rw [hafter, List.cons_append], ?_⟩
      rw [hpieces, List.reverse_cons, List.append_assoc, List.singleton_append]

/-- What holds of texts that are one piece, and of a text with one more cut than another, holds of all texts. -/
theorem cut_induction {P : List Char → Prop} (whole : ∀ cs, pieces [] cs = [cs] → P cs)
    (cut : ∀ front after, IsTerminated front → maySplitBefore after = true →
      pieces [] (front ++ after) = front :: pieces [] after → P after → P (front ++ after)) (cs : List Char) :
    P cs := by
  induction h : cs.length using Nat.strong_induction_on generalizing cs with
  | _ n ih =>
    rcases pieces_cases [] cs with hone | ⟨front, after, hfront, hafter, rfl, hpieces⟩
    · exact whole cs hone
    · have hlength : after.length < n := by
        have := List.length_pos_iff.2 hfront.ne_nil
        rw [← h, List.length_append]
        omega
      exact cut front after hfront hafter hpieces (ih _ hlength after rfl)

/-! ### A piece by itself -/

/-- The text is cut at its end and nowhere else. -/
def IsFinished (cs : List Char) : Prop := pieces [] cs = [cs, []]

theorem IsFinished.pieces_append {cs after : List Char} (h : IsFinished cs) (hafter : maySplitBefore after = true) :
    pieces [] (cs ++ after) = cs :: pieces [] after := by
  obtain ⟨front, last, hpieces, happend⟩ := exists_pieces_append hafter [] cs
  have hself : pieces [] cs = [cs] ++ [[]] := h
  obtain ⟨rfl, hlast⟩ := List.append_inj' (hpieces.symm.trans hself) rfl
  obtain rfl : last = [] := by simpa using hlast
  exact happend

/-- A piece before a cut is finished: the cut does not depend on what follows. -/
theorem isFinished_of_cut {front after : List Char} (hafter : maySplitBefore after = true)
    (h : pieces [] (front ++ after) = front :: pieces [] after) : IsFinished front := by
  obtain ⟨ps, last, hpieces, happend⟩ := exists_pieces_append hafter [] front
  have hflat : (ps ++ [last]).flatten = front := by
    rw [← hpieces, flatten_pieces]
    rfl
  rw [happend] at h
  cases ps with
  | nil =>
    -- without a cut in it, the piece would be longer than it is
    obtain rfl : last = front := by simpa using hflat
    rcases pieces_cases last.reverse after with hone | ⟨more, rest, hmore, -, -, hcons⟩
    · rw [List.nil_append, hone] at h
      exact absurd (List.cons.inj h).2.symm (pieces_ne_nil [] after)
    · rw [List.nil_append, hcons, List.reverse_reverse] at h
      exact absurd (List.append_right_eq_self.1 (List.cons.inj h).1) hmore.ne_nil
  | cons p ps =>
    obtain rfl : p = front := (List.cons.inj h).1
    have hrest : (ps ++ [last]).flatten = [] := by
      rw [List.cons_append, List.flatten_cons] at hflat
      exact List.append_right_eq_self.1 hflat
    have hnone : ps = [] := by
      refine List.eq_nil_iff_forall_not_mem.2 fun q hq => ?_
      have hne : q ≠ [] := by
        refine ne_nil_of_mem_dropLast_pieces [] p q ?_
        rw [hpieces, List.dropLast_concat]
        exact List.mem_cons_of_mem _ hq
      exact hne (List.flatten_eq_nil_iff.1 hrest q (List.mem_append_left _ hq))
    subst hnone
    obtain rfl : last = [] := by simpa using hrest
    exact hpieces

end MarketBrief.Sentence
