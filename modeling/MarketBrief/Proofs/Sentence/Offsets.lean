import Mathlib.Data.List.Induction
import MarketBrief.Proofs.Text.Offsets
import MarketBrief.Proofs.Text.Trim
import MarketBrief.Sentence.Split

/-!
# Splitting by offsets

The same splitting as that of a list of characters, on the stored text: sentences, and what stands before a dot, are cut
out of it by offsets in bytes, and a single cut that misses would leave no result at all.

* `lastWordOffset`, `endsAbbreviatedAt?`: the guards of a dot;
* `piecesAt?`, `splitAt?`: the pieces between cuts and the sentences;
* `endsAbbreviatedAt?_eq`, `piecesAt?_eq`, `splitAt?_eq`: no cut misses, and the result is that of the list.
-/

namespace MarketBrief.Sentence

open Text Unicode

/-! ### The guards of a dot -/

/-- The offset at which the last abbreviated word of a text begins: behind the last character that belongs to none. -/
def lastWordOffset (before : String) : Nat :=
  match (placed 0 before.toList).reverse.find? (!isAbbreviationChar ·.2) with
  | none => 0
  | some (offset, c) => offset + c.utf8Size

/-- Whether a text ends in an abbreviation or an initial. -/
def endsAbbreviatedAt? (before : String) : Option Bool := do
  let word ← stretch? before (lastWordOffset before) before.utf8ByteSize
  match word.toList with
  | [] => return false
  | c :: cs =>
    if cs = [] && isUppercase c then
      let front ← stretch? before 0 (lastWordOffset before)
      return !endsInLabelWord front.toList.reverse
    else return abbreviations.contains (lower (c :: cs))

theorem find?_placed_reverse {word : List Char} (hword : ∀ c ∈ word, isAbbreviationChar c = true) (offset : Nat) :
    (placed offset word).reverse.find? (!isAbbreviationChar ·.2) = none := by
  rw [List.find?_eq_none]
  intro p hp
  have hmem : p.2 ∈ word := by
    have := List.mem_map_of_mem (f := Prod.snd) (List.mem_reverse.1 hp)
    rwa [map_snd_placed] at this
  simp [hword p.2 hmem]

theorem lastWordOffset_eq {before : String} {front word : List Char} (h : before.toList = front ++ word)
    (hword : ∀ c ∈ word, isAbbreviationChar c = true) (hfront : ∀ c ∈ front.getLast?, isAbbreviationChar c = false) :
    lastWordOffset before = width front := by
  unfold lastWordOffset
  rw [h, placed_append, List.reverse_append, List.find?_append, find?_placed_reverse hword, Option.none_or]
  rcases List.eq_nil_or_concat front with rfl | ⟨front, c, rfl⟩
  · rfl
  · have hc : isAbbreviationChar c = false := hfront c (by simp)
    simp [placed_append, hc]

/-- Whether the last word of a text is an abbreviation or an initial; `front`, which is reversed, stands before it. -/
def isGuardWord (front : List Char) : List Char → Bool
  | [] => false
  | c :: cs => if cs = [] && isUppercase c then !endsInLabelWord front else abbreviations.contains (lower (c :: cs))

theorem endsAbbreviated_eq {before word : List Char} (hword : before.takeWhile isAbbreviationChar = word.reverse) :
    endsAbbreviated before = isGuardWord (before.dropWhile isAbbreviationChar) word := by
  unfold endsAbbreviated
  rw [hword]
  rcases word with _ | ⟨c, _ | ⟨d, cs⟩⟩
  · rfl
  · rfl
  · -- a word of two characters or more is no initial, from whichever end it is read
    obtain ⟨e, es, hes⟩ := List.exists_cons_of_ne_nil (List.reverse_ne_nil_iff.2 (List.cons_ne_nil d cs))
    have hreverse : (c :: d :: cs).reverse = e :: (es ++ [c]) := by rw [List.reverse_cons, hes, List.cons_append]
    have hforwards : (e :: (es ++ [c])).reverse = c :: d :: cs := by rw [← hreverse, List.reverse_reverse]
    rw [hreverse]
    simp [isGuardWord, hforwards]

theorem endsAbbreviatedAt?_eq (before : String) :
    endsAbbreviatedAt? before = some (endsAbbreviated before.toList.reverse) := by
  obtain ⟨word, hword⟩ : ∃ word, before.toList.reverse.takeWhile isAbbreviationChar = List.reverse word :=
    ⟨_, (List.reverse_reverse _).symm⟩
  obtain ⟨front, hfront⟩ : ∃ front, before.toList.reverse.dropWhile isAbbreviationChar = List.reverse front :=
    ⟨_, (List.reverse_reverse _).symm⟩
  have htext : before.toList = front ++ word := by
    rw [← List.reverse_inj, List.reverse_append, ← hword, ← hfront, List.takeWhile_append_dropWhile]
  have hinside : ∀ c ∈ word, isAbbreviationChar c = true := fun c hc =>
    List.all_eq_true.1 List.all_takeWhile c (hword ▸ List.mem_reverse.2 hc)
  have houtside : ∀ c ∈ front.getLast?, isAbbreviationChar c = false := by
    rw [← List.head?_reverse, ← hfront]
    exact head?_dropWhile_eq_false _
  have hsize : before.utf8ByteSize = width front + width word := by rw [← width_toList, htext, width_append]
  have hcutWord : stretch? before (lastWordOffset before) before.utf8ByteSize = some (String.ofList word) := by
    rw [lastWordOffset_eq htext hinside houtside, hsize]
    exact stretch?_of_toList front word [] (by rw [htext, List.append_nil])
  have hcutFront : stretch? before 0 (lastWordOffset before) = some (String.ofList front) := by
    rw [lastWordOffset_eq htext hinside houtside, ← Nat.zero_add (width front)]
    exact stretch?_of_toList [] front word htext
  rw [endsAbbreviated_eq hword, hfront]
  unfold endsAbbreviatedAt?
  rw [hcutWord, hcutFront]
  cases word with
  | nil => rfl
  | cons c cs =>
    simp only [Option.bind_eq_bind, Option.bind_some, String.toList_ofList, isGuardWord]
    split <;> rfl

/-! ### The sentences -/

/-- The pieces between cuts of the characters that are left, if the text was cut last at the offset `start`. -/
def piecesAt? (text : String) (start : Nat) : List (Nat × Char) → Option (List String)
  | [] => do return [← stretch? text start text.utf8ByteSize]
  | (dot, c) :: rest =>
    if isTerminal c then do
      let run := rest.takeWhile (isRunMark ·.2)
      let after := rest.dropWhile (isRunMark ·.2)
      let stop := nextOffset text.utf8ByteSize after
      let guarded ←
        if isLoneDot (c :: run.map Prod.snd) then stretch? text start dot >>= endsAbbreviatedAt? else some false
      if !guarded && maySplitBefore (after.map Prod.snd) then
        let piece ← stretch? text start stop
        (piecesAt? text stop after).map (piece :: ·)
      else piecesAt? text start after
    else piecesAt? text start rest
termination_by rest => rest.length
decreasing_by
  all_goals simp only [List.length_cons]
  · exact Nat.lt_succ_of_le (length_dropWhile_le ..)
  · exact Nat.lt_succ_of_le (length_dropWhile_le ..)
  · exact Nat.lt_succ_self _

def splitAt? (text : String) : Option (List String) := do
  let pieces ← piecesAt? text 0 (placed 0 text.toList)
  return (pieces.map trimmed).filter (· ≠ "")

section Step

variable {text : String} {done piece cs : List Char} {c : Char}

theorem piecesAt?_of_not_terminal (hc : isTerminal c = false) (start offset : Nat) :
    piecesAt? text start (placed offset (c :: cs)) = piecesAt? text start (placed (offset + c.utf8Size) cs) := by
  rw [placed_cons, piecesAt?, hc]
  rfl

/-- At a run of marks: what stands before it and what is cut off with it are both stretches of the text. -/
theorem piecesAt?_of_terminal (hc : isTerminal c = true) {run after : List Char}
    (hrun : run = c :: cs.takeWhile isRunMark) (hafter : after = cs.dropWhile isRunMark)
    (htext : text.toList = done ++ (piece.reverse ++ run) ++ after) :
    piecesAt? text (width done) (placed (width (done ++ piece.reverse)) (c :: cs)) =
      if isBoundary piece run after then
        (piecesAt? text (width (done ++ (piece.reverse ++ run)))
          (placed (width (done ++ (piece.reverse ++ run))) after)).map (String.ofList (piece.reverse ++ run) :: ·)
      else piecesAt? text (width done) (placed (width (done ++ (piece.reverse ++ run))) after) := by
  have hbehind : width (done ++ piece.reverse) + c.utf8Size + width (cs.takeWhile isRunMark) =
      width (done ++ (piece.reverse ++ run)) := by
    simp only [hrun, width_append, width_cons]
    omega
  have hsize : text.utf8ByteSize = width (done ++ (piece.reverse ++ run)) + width after := by
    rw [← width_toList, htext, width_append]
  have hguard : stretch? text (width done) (width (done ++ piece.reverse)) = some (String.ofList piece.reverse) := by
    rw [width_append]
    exact stretch?_of_toList done piece.reverse (run ++ after) (by simp [htext])
  have hpiece : stretch? text (width done) (width (done ++ (piece.reverse ++ run))) =
      some (String.ofList (piece.reverse ++ run)) := by
    rw [width_append]
    exact stretch?_of_toList done (piece.reverse ++ run) after htext
  have hdrop : (placed (width (done ++ piece.reverse) + c.utf8Size) cs).dropWhile (isRunMark ·.2) =
      placed (width (done ++ (piece.reverse ++ run))) after := by rw [dropWhile_placed, hbehind, hafter]
  rw [placed_cons, piecesAt?, if_pos hc]
  simp only [takeWhile_placed, hdrop, map_snd_placed, nextOffset_placed hsize, hguard, hpiece, ← hrun,
    Option.bind_eq_bind, Option.bind_some, endsAbbreviatedAt?_eq, String.toList_ofList, List.reverse_reverse]
  unfold isBoundary
  cases isLoneDot run with
  | false => rfl
  | true => rfl

end Step

/-- The invariant of the splitting: the text up to the last cut is `done`, and `piece` has been read since. -/
theorem piecesAt?_eq {text : String} (done piece cs : List Char) (htext : text.toList = done ++ (piece.reverse ++ cs)) :
    piecesAt? text (width done) (placed (width (done ++ piece.reverse)) cs) =
      some ((pieces piece cs).map String.ofList) := by
  fun_induction pieces piece cs generalizing done with
  | case1 piece =>
    have hsize : text.utf8ByteSize = width done + width piece.reverse := by
      rw [← width_toList, htext, List.append_nil, width_append]
    have hlast := stretch?_of_toList done piece.reverse [] ((List.append_assoc ..).symm ▸ htext)
    rw [placed_nil, piecesAt?, hsize, hlast]
    rfl
  | case2 piece c cs hc run after hb ih =>
    have hparts : text.toList = done ++ (piece.reverse ++ run) ++ after := by simp [htext, run, after]
    have hnext := ih (done ++ (piece.reverse ++ run)) hparts
    rw [List.reverse_nil, List.append_nil] at hnext
    rw [piecesAt?_of_terminal hc rfl rfl hparts, if_pos hb, hnext]
    rfl
  | case3 piece c cs hc run after hb ih =>
    have hparts : text.toList = done ++ (piece.reverse ++ run) ++ after := by simp [htext, run, after]
    have hnext := ih done (by simp [hparts])
    rw [List.reverse_append, List.reverse_reverse] at hnext
    rw [piecesAt?_of_terminal hc rfl rfl hparts, if_neg hb, hnext]
  | case4 piece c cs hc ih =>
    have hnext := ih done (by rw [htext]; simp)
    rw [piecesAt?_of_not_terminal (by simpa using hc)]
    simpa [Nat.add_assoc] using hnext

/-- No cut misses, and the sentences that are cut out are those of the list of characters. -/
theorem splitAt?_eq (text : String) : splitAt? text = some (split text) := by
  have hpieces : piecesAt? text 0 (placed 0 text.toList) = some ((pieces [] text.toList).map String.ofList) :=
    piecesAt?_eq [] [] text.toList rfl
  have htrimmed : trimmed ∘ String.ofList = String.ofList ∘ trim := by
    funext cs
    rw [Function.comp_apply, trimmed, String.toList_ofList]
    rfl
  have hempty : (fun s : String => decide (s ≠ "")) ∘ String.ofList = fun cs => decide (cs ≠ []) := by
    funext cs
    simp
  unfold splitAt?
  rw [hpieces]
  simp only [Option.bind_eq_bind, Option.bind_some, Option.pure_def, List.map_map, htrimmed]
  rw [← List.map_map, List.filter_map, hempty]
  rfl

end MarketBrief.Sentence
