import Mathlib.Data.List.DropRight
import MarketBrief.Proofs.Sentence.Lookback
import MarketBrief.Sentence.Split

/-!
# Where a text is cut

A text is read once, with the text since the last cut at hand. The places of the cuts can be told without any reading:
by a maximal run of marks, the whole text before it and the text after it.

* `IsRun`, `LetsSentenceEnd`, `IsGuarded`: the parts of the rule, and `IsCut` the rule;
* `between`, `joints`: the pieces of a text between given positions, and the positions where given pieces meet;
* `Scanning`: what is known while a text is read;
* `split_eq_between_cuts`: the sentences are the pieces between all cuts, trimmed, less the empty ones.
-/

namespace MarketBrief.Sentence

open MarketBrief.Lists Text Unicode

/-! ### The rule -/

/-- A run of marks between two texts: one of its marks is terminal, and neither text continues it. -/
structure IsRun (before run after : List Char) : Prop where
  marks : ∀ c ∈ run, isRunMark c = true
  terminal : ∃ c ∈ run, isTerminal c = true
  before_maximal : ∀ c ∈ before.getLast?, isRunMark c = false
  after_maximal : ∀ c ∈ after.head?, isRunMark c = false

/-- The text is over, or blanks begin it, and what follows the blanks, if anything, begins a sentence. -/
def LetsSentenceEnd (after : List Char) : Prop :=
  after = [] ∨ ∃ blanks rest, after = blanks ++ rest ∧ blanks ≠ [] ∧ (∀ c ∈ blanks, isBlank c = true) ∧
    ∀ c ∈ rest.head?, isBlank c = false ∧ (isUppercase c = true ∨ c.isDigit = true ∨ isOpening c = true)

/-- The run has one terminal mark only, this is a dot, and all the text before that dot ends in an abbreviation or in
a capital letter that is no label. -/
def IsGuarded (before run : List Char) : Prop :=
  run.filter isTerminal = ['.'] ∧ endsAbbreviated (before ++ run.takeWhile (!isTerminal ·)).reverse = true

/-- A sentence ends between two texts. -/
def EndsSentence (upTo after : List Char) : Prop :=
  ∃ before run, upTo = before ++ run ∧ IsRun before run after ∧ LetsSentenceEnd after ∧ ¬ IsGuarded before run

/-- The positions of a text at which it is cut. -/
def IsCut (text : List Char) (p : Nat) : Prop := p ≤ text.length ∧ EndsSentence (text.take p) (text.drop p)

theorem isCut_append_iff (upTo after : List Char) : IsCut (upTo ++ after) upTo.length ↔ EndsSentence upTo after := by
  simp [IsCut]

theorem maySplitBefore_of_isBoundary {before run after : List Char} (h : isBoundary before run after = true) :
    maySplitBefore after = true := by
  simp only [isBoundary, Bool.and_eq_true] at h
  exact h.2

theorem isBlank_of_maySplitBefore {after : List Char} (h : maySplitBefore after = true) :
    ∀ c ∈ after.head?, isBlank c = true := by
  intro c hc
  simp only [maySplitBefore, Bool.and_eq_true, Option.mem_def.1 hc] at h
  simpa using h.1

theorem letsSentenceEnd_iff (after : List Char) : LetsSentenceEnd after ↔ maySplitBefore after = true := by
  constructor
  · rintro (rfl | ⟨blanks, rest, rfl, hne, hblanks, hrest⟩)
    · rfl
    · obtain ⟨b, blanks, rfl⟩ := List.exists_cons_of_ne_nil hne
      have hdrop : (b :: blanks ++ rest).dropWhile isBlank = rest := by
        rw [List.dropWhile_append_of_pos hblanks]
        cases rest with
        | nil => rfl
        | cons c rest => simp [(hrest c rfl).1]
      unfold maySplitBefore
      rw [hdrop]
      cases rest with
      | nil => simp [hblanks b (by simp)]
      | cons c rest =>
        have := (hrest c rfl).2
        simp [hblanks b (by simp), opensSentence, or_assoc, this]
  · intro h
    simp only [maySplitBefore, Bool.and_eq_true] at h
    obtain ⟨hhead, hrest⟩ := h
    cases after with
    | nil => exact Or.inl rfl
    | cons b after =>
      have hb : isBlank b = true := by simpa using hhead
      refine Or.inr ⟨(b :: after).takeWhile isBlank, (b :: after).dropWhile isBlank,
        List.takeWhile_append_dropWhile.symm, by simp [hb], fun c hc => List.mem_takeWhile_imp hc, ?_⟩
      intro c hc
      have hnot := List.head?_dropWhile_not isBlank (b :: after)
      rw [Option.mem_def.1 hc] at hnot hrest
      refine ⟨by simpa using hnot, ?_⟩
      simpa [opensSentence, or_assoc] using hrest

/-! ### Pieces and positions -/

/-- The pieces of a text between ascending positions; the first piece begins at `start`. -/
def between (text : List Char) (start : Nat) : List Nat → List (List Char)
  | [] => [text.drop start]
  | p :: ps => text.extract start p :: between text p ps

/-- The positions where pieces meet that are laid end to end from `start` on. -/
def joints (start : Nat) : List (List Char) → List Nat
  | [] => []
  | [_] => []
  | piece :: next :: rest => (start + piece.length) :: joints (start + piece.length) (next :: rest)

theorem joints_cons {rest : List (List Char)} (h : rest ≠ []) (start : Nat) (piece : List Char) :
    joints start (piece :: rest) = (start + piece.length) :: joints (start + piece.length) rest := by
  obtain ⟨next, rest, rfl⟩ := List.exists_cons_of_ne_nil h
  rfl

/-- Pieces that make up a text are the pieces between the positions where they meet. -/
theorem between_joints (done : List Char) {ps : List (List Char)} (h : ps ≠ []) :
    between (done ++ ps.flatten) done.length (joints done.length ps) = ps := by
  induction ps generalizing done with
  | nil => exact absurd rfl h
  | cons piece rest ih =>
    by_cases hrest : rest = []
    · subst hrest
      simp [joints, between]
    · have htext : done ++ (piece :: rest).flatten = (done ++ piece) ++ rest.flatten := by simp
      have := ih (done ++ piece) hrest
      rw [List.length_append] at this
      rw [joints_cons hrest, between, htext, this]
      congr 1
      simp [List.extract_eq_take_drop]

theorem lt_of_mem_joints {ps : List (List Char)} (h : ∀ piece ∈ ps.dropLast, piece ≠ []) {start p : Nat}
    (hp : p ∈ joints start ps) : start < p := by
  induction ps generalizing start with
  | nil => simp [joints] at hp
  | cons piece rest ih =>
    by_cases hrest : rest = []
    · subst hrest
      simp [joints] at hp
    · rw [List.dropLast_cons_of_ne_nil hrest] at h
      have hpiece : 0 < piece.length := List.length_pos_iff.2 (h piece (by simp))
      rw [joints_cons hrest, List.mem_cons] at hp
      rcases hp with rfl | hp
      · omega
      · have := ih (fun q hq => h q (List.mem_cons_of_mem _ hq)) hp
        omega

theorem joints_ascending {ps : List (List Char)} (h : ∀ piece ∈ ps.dropLast, piece ≠ []) (start : Nat) :
    (joints start ps).Pairwise (· < ·) := by
  induction ps generalizing start with
  | nil => exact .nil
  | cons piece rest ih =>
    by_cases hrest : rest = []
    · subst hrest
      exact .nil
    · rw [List.dropLast_cons_of_ne_nil hrest] at h
      have htail : ∀ q ∈ rest.dropLast, q ≠ [] := fun q hq => h q (List.mem_cons_of_mem _ hq)
      rw [joints_cons hrest]
      exact .cons (fun p hp => lt_of_mem_joints htail hp) (ih htail _)

theorem pieces_ne_nil (piece cs : List Char) : pieces piece cs ≠ [] := by
  fun_induction pieces piece cs with
  | case1 => simp
  | case2 => simp
  | case3 _ _ _ _ _ _ _ ih => exact ih
  | case4 _ _ _ _ ih => exact ih

theorem ne_nil_of_mem_dropLast_pieces (piece cs : List Char) : ∀ q ∈ (pieces piece cs).dropLast, q ≠ [] := by
  fun_induction pieces piece cs with
  | case1 => simp
  | case2 _ _ _ _ run after _ ih =>
    rw [List.dropLast_cons_of_ne_nil (pieces_ne_nil [] after)]
    intro q hq
    rcases List.mem_cons.1 hq with rfl | hq
    · simp [run]
    · exact ih q hq
  | case3 _ _ _ _ _ _ _ ih => exact ih
  | case4 _ _ _ _ ih => exact ih

/-! ### What is known while reading -/

/-- The state of reading: `done` is the text up to the last cut, `piece` the reversed text since then. A run that holds
a terminal mark is not continued by what follows, and behind a cut stands a blank. -/
structure Scanning (done piece cs : List Char) : Prop where
  fresh : ∀ front marks, done ++ piece.reverse = front ++ marks → (∀ m ∈ marks, isRunMark m = true) →
    (∃ m ∈ marks, isTerminal m = true) → ∀ c ∈ cs.head?, isRunMark c = false
  apart : done = [] ∨ (∀ m ∈ done.getLast?, isRunMark m = true) ∧ ∀ b ∈ (piece.reverse ++ cs).head?, isBlank b = true

theorem isRunMark_of_mem_head?_dropWhile {cs : List Char} :
    ∀ c ∈ (cs.dropWhile isRunMark).head?, isRunMark c = false := by
  intro c hc
  have h := List.head?_dropWhile_not isRunMark cs
  rw [Option.mem_def.1 hc] at h
  simpa using h

section Reading

variable {done piece cs : List Char} {c : Char}

theorem isRunMark_of_mem_run (hc : isTerminal c = true) : ∀ m ∈ c :: cs.takeWhile isRunMark, isRunMark m = true := by
  intro m hm
  rcases List.mem_cons.1 hm with rfl | hm
  · exact isRunMark_of_isTerminal hc
  · exact List.mem_takeWhile_imp hm

theorem Scanning.start (cs : List Char) : Scanning [] [] cs where
  fresh := by
    intro front marks h _ ⟨m, hm, _⟩
    simp only [List.reverse_nil, List.append_nil] at h
    rw [(List.append_eq_nil_iff.1 h.symm).2] at hm
    simp at hm
  apart := Or.inl rfl

/-- No run that holds a terminal mark ends in a character that is none: the run before it would be continued. -/
theorem Scanning.not_terminal (h : Scanning done piece (c :: cs)) (hc : isTerminal c = false) {front marks : List Char}
    (htext : done ++ piece.reverse ++ [c] = front ++ marks) (hmarks : ∀ m ∈ marks, isRunMark m = true) :
    ¬ ∃ m ∈ marks, isTerminal m = true := by
  rintro ⟨m, hm, hterm⟩
  rcases List.eq_nil_or_concat marks with rfl | ⟨marks, x, rfl⟩
  · simp at hm
  · rw [List.concat_eq_append] at *
    rw [← List.append_assoc] at htext
    obtain ⟨hfront, hx⟩ := List.append_inj' htext rfl
    obtain rfl : c = x := by simpa using hx
    have hm : m ∈ marks := by
      rcases List.mem_append.1 hm with hm | hm
      · exact hm
      · rw [List.mem_singleton.1 hm, hc] at hterm
        exact absurd hterm (by decide)
    have hno := h.fresh front marks hfront (fun m hm => hmarks m (by simp [hm])) ⟨m, hm, hterm⟩ c rfl
    rw [hmarks c (by simp)] at hno
    exact absurd hno (by decide)

theorem Scanning.step (h : Scanning done piece (c :: cs)) (hc : isTerminal c = false) : Scanning done (c :: piece) cs where
  fresh _ _ htext hmarks hterm := absurd hterm (h.not_terminal hc (by simpa using htext) hmarks)
  apart := by simpa using h.apart

theorem Scanning.skip (h : Scanning done piece (c :: cs)) :
    Scanning done ((c :: cs.takeWhile isRunMark).reverse ++ piece) (cs.dropWhile isRunMark) where
  fresh _ _ _ _ _ := isRunMark_of_mem_head?_dropWhile
  apart := by simpa using h.apart

theorem Scanning.cut (hc : isTerminal c = true) (hafter : maySplitBefore (cs.dropWhile isRunMark) = true) :
    Scanning (done ++ (piece.reverse ++ c :: cs.takeWhile isRunMark)) [] (cs.dropWhile isRunMark) where
  fresh _ _ _ _ _ := isRunMark_of_mem_head?_dropWhile
  apart := by
    refine Or.inr ⟨fun m hm => ?_, fun b hb => ?_⟩
    · rw [← List.append_assoc, List.getLast?_append_cons] at hm
      exact isRunMark_of_mem_run hc m (List.mem_of_getLast? hm)
    · rw [List.reverse_nil, List.nil_append] at hb
      exact isBlank_of_maySplitBefore hafter b hb

/-- The guards find before a terminal mark what they find in the piece alone. -/
theorem Scanning.endsAbbreviated_eq (h : Scanning done piece (c :: cs)) (hc : isTerminal c = true) :
    endsAbbreviated (done ++ piece.reverse).reverse = endsAbbreviated piece := by
  rw [List.reverse_append, List.reverse_reverse]
  rcases h.apart with rfl | ⟨hlast, hblank⟩
  · simp
  · rcases List.eq_nil_or_concat piece with rfl | ⟨piece, b, rfl⟩
    · have hb : isBlank c = true := hblank c rfl
      rw [isBlank_of_isRunMark (isRunMark_of_isTerminal hc)] at hb
      exact absurd hb (by decide)
    · rw [List.concat_eq_append] at *
      have hb : isBlank b = true := hblank b (by simp)
      have hrest : ∀ m ∈ done.reverse.head?, isRunMark m = true := by simpa using hlast
      rw [List.append_assoc, List.singleton_append, endsAbbreviated_append hb piece hrest]

/-! ### Cuts at the end of a run -/

theorem EndsSentence.isRunMark_eq_false {upTo after : List Char} (h : EndsSentence upTo after) :
    ∀ c ∈ after.head?, isRunMark c = false := by
  obtain ⟨before, run, -, hrun, -⟩ := h
  exact hrun.after_maximal

/-- The terminal marks of a run begin with the first that is read, so the run is guarded as a lone dot is. -/
theorem isGuarded_append_iff {before marks run : List Char} (hmarks : ∀ m ∈ marks, isTerminal m = false)
    (hc : isTerminal c = true) :
    IsGuarded before (marks ++ c :: run) ↔
      isLoneDot (c :: run) = true ∧ endsAbbreviated (before ++ marks).reverse = true := by
  have hfilter : (marks ++ c :: run).filter isTerminal = c :: run.filter isTerminal := by
    rw [List.filter_append, List.filter_eq_nil_iff.2 (by simpa using hmarks), List.filter_cons_of_pos hc,
      List.nil_append]
  have htake : (marks ++ c :: run).takeWhile (!isTerminal ·) = marks := by
    rw [takeWhile_append_cons (by simp [hc])]
    exact List.takeWhile_eq_self_iff.2 (by simpa using hmarks)
  rw [IsGuarded, hfilter, htake]
  refine and_congr_left fun _ => ?_
  simp [isLoneDot, List.filter_eq_nil_iff]

theorem Scanning.exists_marks_of_isRun (h : Scanning done piece (c :: cs)) (hc : isTerminal c = true)
    {before run after : List Char}
    (htext : done ++ piece.reverse ++ c :: cs.takeWhile isRunMark = before ++ run) (hrun : IsRun before run after) :
    ∃ marks, run = marks ++ c :: cs.takeWhile isRunMark ∧ done ++ piece.reverse = before ++ marks ∧
      ∀ m ∈ marks, isTerminal m = false := by
  rcases List.append_eq_append_iff.1 htext with ⟨front, hbefore, htail⟩ | ⟨marks, hdone, hmarks⟩
  · -- the run would begin inside the marks that are read, so it is all of them
    rcases List.eq_nil_or_concat front with rfl | ⟨front, x, rfl⟩
    · exact ⟨[], by simpa using htail.symm, by simpa using hbefore.symm, by simp⟩
    · rw [List.concat_eq_append] at *
      have hx := hrun.before_maximal x (by simp [hbefore])
      have hmem : x ∈ c :: cs.takeWhile isRunMark := by
        rw [htail]
        simp
      rw [isRunMark_of_mem_run hc x hmem] at hx
      exact absurd hx (by decide)
  · refine ⟨marks, hmarks, hdone, fun m hm => ?_⟩
    by_contra hterm
    have hno := h.fresh before marks hdone (fun x hx => hrun.marks x (by simp [hmarks, hx]))
      ⟨m, hm, by simpa using hterm⟩ c rfl
    rw [isRunMark_of_isTerminal hc] at hno
    exact absurd hno (by decide)

theorem Scanning.exists_isRun (h : Scanning done piece (c :: cs)) (hc : isTerminal c = true) :
    ∃ before marks, done ++ piece.reverse = before ++ marks ∧ (∀ m ∈ marks, isTerminal m = false) ∧
      IsRun before (marks ++ c :: cs.takeWhile isRunMark) (cs.dropWhile isRunMark) := by
  have hdone := (List.rdropWhile_append_rtakeWhile (p := isRunMark) (l := done ++ piece.reverse)).symm
  set before := (done ++ piece.reverse).rdropWhile isRunMark with hbefore
  set marks := (done ++ piece.reverse).rtakeWhile isRunMark
  have hmarks : ∀ m ∈ marks, isRunMark m = true := fun m hm => List.mem_rtakeWhile_imp hm
  have hrun : IsRun before (marks ++ c :: cs.takeWhile isRunMark) (cs.dropWhile isRunMark) := by
    refine ⟨?_, ⟨c, by simp, hc⟩, ?_, isRunMark_of_mem_head?_dropWhile⟩
    · intro m hm
      rcases List.mem_append.1 hm with hm | hm
      · exact hmarks m hm
      · exact isRunMark_of_mem_run hc m hm
    · intro m hm
      have hne : before ≠ [] := by
        rintro h0
        simp [h0] at hm
      have hlast := List.rdropWhile_last_not isRunMark (done ++ piece.reverse) (hbefore ▸ hne)
      rw [List.getLast?_eq_some_getLast hne, Option.mem_some_iff] at hm
      subst hm
      simpa using hlast
  obtain ⟨marks', hrun', -, hterm⟩ := h.exists_marks_of_isRun hc (by rw [hdone, List.append_assoc]) hrun
  exact ⟨before, marks, hdone, (List.append_cancel_right hrun').symm ▸ hterm, hrun⟩

/-- At the end of a run the rule decides as the reader does. -/
theorem Scanning.endsSentence_iff (h : Scanning done piece (c :: cs)) (hc : isTerminal c = true) :
    EndsSentence (done ++ piece.reverse ++ c :: cs.takeWhile isRunMark) (cs.dropWhile isRunMark) ↔
      isBoundary piece (c :: cs.takeWhile isRunMark) (cs.dropWhile isRunMark) = true := by
  have hguard : ∀ {before marks}, done ++ piece.reverse = before ++ marks → (∀ m ∈ marks, isTerminal m = false) →
      (IsGuarded before (marks ++ c :: cs.takeWhile isRunMark) ↔
        (isLoneDot (c :: cs.takeWhile isRunMark) && endsAbbreviated piece) = true) := by
    intro before marks hdone hmarks
    rw [isGuarded_append_iff hmarks hc, ← hdone, h.endsAbbreviated_eq hc, Bool.and_eq_true]
  unfold isBoundary
  rw [Bool.and_eq_true, ← letsSentenceEnd_iff, Bool.not_eq_true', ← Bool.not_eq_true]
  constructor
  · rintro ⟨before, run, htext, hrun, hafter, hnot⟩
    obtain ⟨marks, rfl, hdone, hmarks⟩ := h.exists_marks_of_isRun hc htext hrun
    exact ⟨(hguard hdone hmarks).not.1 hnot, hafter⟩
  · rintro ⟨hnot, hafter⟩
    obtain ⟨before, marks, hdone, hmarks, hrun⟩ := h.exists_isRun hc
    exact ⟨before, _, by rw [hdone, List.append_assoc], hrun, hafter, (hguard hdone hmarks).not.2 hnot⟩

/-- No sentence ends behind a character that is no terminal mark, unless that closes a run read before. -/
theorem Scanning.not_endsSentence (h : Scanning done piece (c :: cs)) (hc : isTerminal c = false) :
    ¬ EndsSentence (done ++ piece.reverse ++ [c]) cs := by
  rintro ⟨before, run, htext, hrun, -⟩
  exact h.not_terminal hc htext hrun.marks hrun.terminal

theorem not_endsSentence_inside_run (hc : isTerminal c = true) {upTo : List Char} (k : Nat) (_ : 0 < k)
    (hk : k < (c :: cs.takeWhile isRunMark).length) :
    ¬ EndsSentence (upTo ++ (c :: cs.takeWhile isRunMark).take k)
      ((c :: cs.takeWhile isRunMark).drop k ++ cs.dropWhile isRunMark) := by
  intro hends
  rw [List.drop_eq_getElem_cons hk] at hends
  have hno := hends.isRunMark_eq_false _ rfl
  rw [isRunMark_of_mem_run hc _ (List.getElem_mem hk)] at hno
  exact absurd hno (by decide)

end Reading

/-! ### Cuts by position -/

/-- Of the positions behind `upTo` those inside `passed` fall away; the one at its end is left, and those behind it. -/
theorem isCut_passed_iff {upTo : List Char} (passed after : List Char) (hne : passed ≠ [])
    (hin : ∀ k, 0 < k → k < passed.length → ¬ EndsSentence (upTo ++ passed.take k) (passed.drop k ++ after)) (p : Nat) :
    upTo.length < p ∧ IsCut (upTo ++ passed ++ after) p ↔
      (p = (upTo ++ passed).length ∧ EndsSentence (upTo ++ passed) after) ∨
        ((upTo ++ passed).length < p ∧ IsCut (upTo ++ passed ++ after) p) := by
  have hpos : 0 < passed.length := List.length_pos_iff.2 hne
  rw [List.length_append]
  constructor
  · rintro ⟨hlt, hcut⟩
    rcases Nat.lt_trichotomy p (upTo.length + passed.length) with hp | rfl | hp
    · obtain ⟨k, rfl⟩ := Nat.exists_eq_add_of_lt hlt
      refine absurd hcut.2 ?_
      have hk : k + 1 ≤ passed.length := by omega
      rw [Nat.add_assoc, List.append_assoc, List.take_length_add_append, List.drop_length_add_append,
        List.take_append_of_le_length hk, List.drop_append_of_le_length hk]
      exact hin (k + 1) (by omega) (by omega)
    · rw [← List.length_append, isCut_append_iff] at hcut
      exact Or.inl ⟨rfl, hcut⟩
    · exact Or.inr ⟨hp, hcut⟩
  · rintro (⟨rfl, hends⟩ | ⟨hp, hcut⟩)
    · rw [← List.length_append, isCut_append_iff]
      exact ⟨by rw [List.length_append]; omega, hends⟩
    · exact ⟨by omega, hcut⟩

theorem pos_of_isCut {text : List Char} {p : Nat} (h : IsCut text p) : 0 < p := by
  obtain ⟨-, before, run, htake, hrun, -⟩ := h
  obtain ⟨m, hm, -⟩ := hrun.terminal
  by_contra hp
  obtain rfl : p = 0 := by omega
  rw [List.take_zero] at htake
  rw [(List.append_eq_nil_iff.1 htake.symm).2] at hm
  simp at hm

/-- The pieces meet at the cuts behind what has been read. -/
theorem mem_joints_pieces_iff (piece cs : List Char) (p : Nat) (done : List Char) (h : Scanning done piece cs) :
    p ∈ joints done.length (pieces piece cs) ↔
      (done ++ piece.reverse).length < p ∧ IsCut (done ++ piece.reverse ++ cs) p := by
  revert done
  fun_induction pieces piece cs with
  | case1 piece =>
    intro done _
    simp only [joints, List.not_mem_nil, List.append_nil, false_iff, not_and]
    intro hlt hcut
    have := hcut.1
    omega
  | case2 piece c cs hc run after hb ih =>
    intro done h
    have hscan : Scanning (done ++ (piece.reverse ++ run)) [] after :=
      Scanning.cut hc (maySplitBefore_of_isBoundary hb)
    have hends : EndsSentence (done ++ piece.reverse ++ run) after := (h.endsSentence_iff hc).2 hb
    have htext : done ++ piece.reverse ++ c :: cs = done ++ piece.reverse ++ run ++ after := by simp [run, after]
    rw [joints_cons (pieces_ne_nil [] after), List.mem_cons, ← List.length_append, ih _ hscan, htext,
      isCut_passed_iff run after (by simp [run]) (not_endsSentence_inside_run hc)]
    simp only [List.reverse_nil, List.append_nil, ← List.append_assoc, hends, and_true]
  | case3 piece c cs hc run after hb ih =>
    intro done h
    have hends : ¬ EndsSentence (done ++ piece.reverse ++ run) after := mt (h.endsSentence_iff hc).1 hb
    have htext : done ++ piece.reverse ++ c :: cs = done ++ piece.reverse ++ run ++ after := by simp [run, after]
    rw [ih _ h.skip, htext,
      isCut_passed_iff run after (by simp [run]) (not_endsSentence_inside_run hc)]
    simp only [List.reverse_append, List.reverse_reverse, ← List.append_assoc, hends, and_false, false_or]
  | case4 piece c cs hc ih =>
    intro done h
    have hc : isTerminal c = false := by simpa using hc
    have htext : done ++ piece.reverse ++ c :: cs = done ++ piece.reverse ++ [c] ++ cs := by simp
    rw [ih _ (h.step hc), htext, isCut_passed_iff [c] cs (by simp) (by simp; omega)]
    simp only [List.reverse_cons, ← List.append_assoc, h.not_endsSentence hc, and_false, false_or]

/-- **The cuts of a text.** The sentences of a text are the pieces between all positions where the rule cuts it,
without the blanks at their ends, less the pieces that are blank. -/
theorem split_eq_between_cuts (text : String) :
    ∃ cuts : List Nat, cuts.Pairwise (· < ·) ∧ (∀ p, p ∈ cuts ↔ IsCut text.toList p) ∧
      split text = (((between text.toList 0 cuts).map trim).filter (· ≠ [])).map String.ofList := by
  refine ⟨joints 0 (pieces [] text.toList), joints_ascending (ne_nil_of_mem_dropLast_pieces _ _) 0, fun p => ?_, ?_⟩
  · have h := mem_joints_pieces_iff [] text.toList p [] (Scanning.start text.toList)
    simp only [List.length_nil, List.reverse_nil, List.append_nil, List.nil_append] at h
    rw [h]
    exact ⟨And.right, fun hcut => ⟨pos_of_isCut hcut, hcut⟩⟩
  · have hflat := flatten_pieces [] text.toList
    have h := between_joints [] (pieces_ne_nil [] text.toList)
    simp only [List.nil_append, List.length_nil, List.reverse_nil, hflat] at h
    rw [split, splitChars, h]

end MarketBrief.Sentence
