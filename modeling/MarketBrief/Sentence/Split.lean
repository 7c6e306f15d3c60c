import MarketBrief.Sentence.Boundary

/-!
# Splitting a text into sentences

The text is read once, from run to run. What has been read since the last cut is kept reversed, so that the word before
a dot is at hand.

* `pieces`: the text between the cuts, with every character in exactly one piece (`flatten_pieces`);
* `split`: the pieces without blanks at their ends, less the empty ones.
-/

namespace MarketBrief.Sentence

open Text

/-- The pieces between cuts of the text that follows `piece`, the reversed text since the last cut. -/
def pieces (piece : List Char) : List Char → List (List Char)
  | [] => [piece.reverse]
  | c :: cs =>
    if isTerminal c then
      let run := c :: cs.takeWhile isRunMark
      let after := cs.dropWhile isRunMark
      if isBoundary piece run after then (piece.reverse ++ run) :: pieces [] after
      else pieces (run.reverse ++ piece) after
    else pieces (c :: piece) cs
termination_by cs => cs.length
decreasing_by
  all_goals simp only [List.length_cons]
  · exact Nat.lt_succ_of_le (length_dropWhile_le ..)
  · exact Nat.lt_succ_of_le (length_dropWhile_le ..)
  · exact Nat.lt_succ_self _

/-- Cutting loses no character and adds none. -/
theorem flatten_pieces (piece cs : List Char) : (pieces piece cs).flatten = piece.reverse ++ cs := by
  fun_induction pieces piece cs with
  | case1 => simp
  | case2 piece c cs _ run after _ ih => simp [ih, run, after]
  | case3 piece c cs _ run after _ ih => rw [ih]; simp [run, after]
  | case4 piece c cs _ ih => simp [ih]

/-- The sentences of a list of characters in reading order. -/
def splitChars (cs : List Char) : List (List Char) := ((pieces [] cs).map trim).filter (· ≠ [])

/-- The sentences of a text in reading order, none of them empty and none with blanks at its ends. -/
def split (text : String) : List String := (splitChars text.toList).map String.ofList

end MarketBrief.Sentence
