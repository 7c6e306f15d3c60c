import MarketBrief.Text.Basic
import MarketBrief.Unicode.Alphabetic

/-!
# Occurrences of keywords

A keyword is looked for from the left, and the search goes on behind each place where it is found. It counts where it
begins a word; a short keyword must end the word too.

* `occurrencesAfter`: the places found, each by the character before it and the text behind it;
* `counts`: whether a place counts;
* `countOccurrences`: how many places of a text count.
-/

namespace MarketBrief.Category

open Unicode

/-- The places where a keyword occurs in a text that follows the character `before?`. Places do not overlap. -/
def occurrencesAfter (keyword : List Char) (before? : Option Char) : List Char → List (Option Char × List Char)
  | [] => []
  | c :: cs =>
    if keyword ≠ [] ∧ keyword.isPrefixOf (c :: cs) then
      let rest := (c :: cs).drop keyword.length
      (before?, rest) :: occurrencesAfter keyword keyword.getLast? rest
    else occurrencesAfter keyword (some c) cs
termination_by cs => cs.length
decreasing_by
  · have : 0 < keyword.length := List.length_pos_iff.2 (by grind)
    simp only [List.length_drop, List.length_cons]
    omega
  · simp

/-- Whether a keyword is so short that it must be a word of its own. -/
def isShort (keyword : List Char) : Bool := keyword.length ≤ 3

/-- Whether a place counts: no alphanumeric character before it and, if the keyword is short, none behind it. -/
def counts (keyword : List Char) (place : Option Char × List Char) : Bool :=
  !place.1.any isAlphanumeric && !(isShort keyword && place.2.head?.any isAlphanumeric)

def countOccurrences (text keyword : String) : Nat :=
  (occurrencesAfter keyword.toList none text.toList).countP (counts keyword.toList)

end MarketBrief.Category
