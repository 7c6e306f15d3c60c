import MarketBrief.Proofs.Sentence.Resplit
import MarketBrief.Sentence.Quality

/-!
# How sentences end and begin

A text is cut behind a run of marks that holds a terminal one, before something that opens a sentence. Read backwards,
the run shows its last terminal mark once the closing marks behind it are taken away; and what opens a sentence is no
small letter.

* `any_head?_dropWhile_isClosing`, `IsTerminated.trim`: what a run shows at the end of a trimmed piece;
* `hasTerminalMark_of_mem_dropLast`: all sentences but the last one have a terminal mark;
* `BeginsSentence`, `beginsSentence_of_mem_tail`: all but the first one begin as sentences do;
* `isFragment_of_mem_tail`, `filter_isFragment_sublist`: so only the first one can be a fragment.
-/

namespace MarketBrief.Sentence

open Text Unicode

/-! ### Ends -/

theorem isClosing_of_isTerminal {c : Char} (h : isTerminal c = true) : isClosing c = false := by
  simp only [isTerminal, Bool.or_eq_true, beq_iff_eq] at h
  rcases h with (rfl | rfl) | rfl <;> decide

/-- Marks behind a terminal one, read from the end: without the closing ones in front they begin with a terminal one. -/
theorem any_head?_dropWhile_isClosing {marks : List Char} (hmarks : ∀ m ∈ marks, isRunMark m = true) {c : Char}
    (hc : isTerminal c = true) (before : List Char) :
    ((marks ++ c :: before).dropWhile isClosing).head?.any isTerminal = true := by
  induction marks with
  | nil =>
    rw [List.nil_append, List.dropWhile_cons_of_neg (by simp [isClosing_of_isTerminal hc])]
    exact hc
  | cons m marks ih =>
    obtain ⟨hm, hmarks⟩ := List.forall_mem_cons.1 hmarks
    by_cases hclosing : isClosing m = true
    · rw [List.cons_append, List.dropWhile_cons_of_pos hclosing]
      exact ih hmarks
    · have hterm : isTerminal m = true := (Bool.or_eq_true_iff.1 hm).resolve_right hclosing
      rw [List.cons_append, List.dropWhile_cons_of_neg hclosing]
      exact hterm

theorem IsTerminated.trim {cs : List Char} (h : IsTerminated cs) : IsTerminated (trim cs) := by
  obtain ⟨lead, hlead, heq, -⟩ := h.exists_eq_append_trim
  obtain ⟨before, c, marks, hcs, hc, hmarks⟩ := h
  rcases List.append_eq_append_iff.1 (heq.symm.trans hcs) with ⟨rest, -, htrim⟩ | ⟨rest, hlead', hrun⟩
  · exact ⟨rest, c, marks, htrim, hc, hmarks⟩
  · -- the blanks in front end before the mark
    cases rest with
    | nil => exact ⟨[], c, marks, hrun.symm, hc, hmarks⟩
    | cons b rest =>
      obtain ⟨rfl, -⟩ := List.cons.inj hrun
      have hblank := hlead c (hlead' ▸ List.mem_append_right before List.mem_cons_self)
      rw [isBlank_of_isRunMark (isRunMark_of_isTerminal hc)] at hblank
      exact Bool.noConfusion hblank

theorem IsTerminated.hasTerminalMark {cs : List Char} (h : IsTerminated cs) :
    hasTerminalMark (String.ofList cs) = true := by
  have hlast := h.not_blank_last
  obtain ⟨before, c, marks, rfl, hc, hmarks⟩ := h
  rw [← List.head?_reverse] at hlast
  rw [Sentence.hasTerminalMark, String.toList_ofList, dropWhile_of_head?_eq_false hlast, List.reverse_append,
    List.reverse_cons, List.append_assoc, List.singleton_append]
  exact any_head?_dropWhile_isClosing (fun m hm => hmarks m (List.mem_reverse.1 hm)) hc before.reverse

theorem isTerminated_of_mem_dropLast {cs s : List Char} (h : s ∈ (splitChars cs).dropLast) : IsTerminated s := by
  induction cs using cut_induction with
  | whole cs hpieces =>
    rw [splitChars_of_one_piece hpieces] at h
    split at h <;> exact absurd h List.not_mem_nil
  | cut front after hfront hafter hpieces ih =>
    rw [splitChars_of_cut hfront hpieces] at h
    by_cases hnil : splitChars after = []
    · rw [hnil] at h
      exact absurd h List.not_mem_nil
    · rw [List.dropLast_cons_of_ne_nil hnil] at h
      rcases List.mem_cons.1 h with rfl | h
      · exact hfront.trim
      · exact ih h

theorem hasTerminalMark_of_mem_dropLast {text s : String} (h : s ∈ (split text).dropLast) :
    hasTerminalMark s = true := by
  rw [split, ← List.map_dropLast, List.mem_map] at h
  obtain ⟨cs, hcs, rfl⟩ := h
  exact (isTerminated_of_mem_dropLast hcs).hasTerminalMark

/-! ### Beginnings -/

/-- The sentence begins with an uppercase letter, a digit, or a quote or bracket that opens. -/
def BeginsSentence (s : String) : Prop :=
  ∃ c ∈ s.toList.head?, isUppercase c = true ∨ c.isDigit = true ∨ isOpening c = true

theorem isLowercase_of_isDigit {c : Char} (h : c.isDigit = true) : isLowercase c = false := by
  have hrange : 0x30 ≤ c.toNat ∧ c.toNat ≤ 0x39 := by simpa [Char.isDigit, UInt32.le_iff_toNat_le] using h
  have hcovers : covers [⟨0x30, 0x39, 1⟩] c.toNat = true := by
    simp [covers, Run.has, hrange, Nat.not_lt.2 hrange.1, Nat.mod_one]
  have hdigit := of_covers (P := fun c => !isLowercase c) (by decide +kernel) hcovers
  simpa using hdigit

theorem isLowercase_of_opensSentence {c : Char} (h : opensSentence c = true) : isLowercase c = false := by
  rw [opensSentence, Bool.or_eq_true, Bool.or_eq_true] at h
  rcases h with (hupper | hdigit) | hopening
  · cases hlower : isLowercase c with
    | false => rfl
    | true => rw [← hupper, isUppercase_of_isLowercase hlower]
  · exact isLowercase_of_isDigit hdigit
  · simp only [isOpening, Bool.or_eq_true, beq_iff_eq] at hopening
    rcases hopening with ((((rfl | rfl) | rfl) | rfl) | rfl) | rfl <;> decide +kernel

theorem opensSentence_of_mem_tail {cs s : List Char} (h : s ∈ (splitChars cs).tail) :
    ∀ c ∈ s.head?, opensSentence c = true := by
  have hpairs := pairwise_separates_splitChars cs
  cases hsplit : splitChars cs with
  | nil => simp [hsplit] at h
  | cons first rest =>
    rw [hsplit] at h hpairs
    exact ((List.pairwise_cons.1 hpairs).1 s h).opens

section Tail

variable {text s : String} (h : s ∈ (split text).tail)

include h

theorem exists_opensSentence_of_mem_tail : ∃ c ∈ s.toList.head?, opensSentence c = true := by
  have hne : s.toList ≠ [] := fun hnil =>
    ne_empty_of_mem_split (List.mem_of_mem_tail h) (String.toList_eq_nil_iff.1 hnil)
  obtain ⟨c, cs, hcs⟩ := List.exists_cons_of_ne_nil hne
  have htail : s.toList ∈ (splitChars text.toList).tail := by
    rw [← map_toList_split, ← List.map_tail]
    exact List.mem_map_of_mem h
  exact ⟨c, by simp [hcs], opensSentence_of_mem_tail htail c (by simp [hcs])⟩

theorem beginsSentence_of_mem_tail : BeginsSentence s := by
  obtain ⟨c, hc, hopens⟩ := exists_opensSentence_of_mem_tail h
  rw [opensSentence, Bool.or_eq_true, Bool.or_eq_true, or_assoc] at hopens
  exact ⟨c, hc, hopens⟩

theorem isFragment_of_mem_tail : isFragment s = false := by
  obtain ⟨c, hc, hopens⟩ := exists_opensSentence_of_mem_tail h
  rw [isFragment, Option.mem_def.1 hc]
  exact isLowercase_of_opensSentence hopens

end Tail

/-- At most the first sentence of a text is a fragment. -/
theorem filter_isFragment_sublist (text : String) :
    ((split text).filter isFragment).Sublist (split text).head?.toList := by
  have htail : ∀ s ∈ (split text).tail, isFragment s = false := fun s => isFragment_of_mem_tail
  cases hsplit : split text with
  | nil => exact List.Sublist.refl _
  | cons first rest =>
    rw [hsplit, List.tail_cons] at htail
    have hrest : rest.filter isFragment = [] := List.filter_eq_nil_iff.2 fun s hs => by simp [htail s hs]
    rw [← List.singleton_append, List.filter_append, hrest, List.append_nil]
    exact List.filter_sublist

end MarketBrief.Sentence
