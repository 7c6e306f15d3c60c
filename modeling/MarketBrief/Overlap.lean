import MarketBrief.Token
import MarketBrief.Number.Binary64

/-!
# Overlap of two texts

Two texts overlap by the words they share: the share is taken of the text with fewer different words.

* `wordSet`: the different words of a text;
* `sharedWords`: how many words of one set are in another;
* `overlapRatio`: the quotient as a binary number, and zero if one text has no words.
-/

namespace MarketBrief

open Number

/-- The different tokens of a text, in the order of their first occurrence. -/
def wordSet (text : String) : List String := (Token.tokenize text).eraseDups

/-- The number of words of the first set that are in the second. -/
def sharedWords (a b : List String) : Nat := a.countP b.contains

/-- The words shared, over the words of the smaller set. -/
def setOverlapRatio (a b : List String) : Binary64 :=
  let smaller := min a.length b.length
  if smaller = 0 then .zero else .ofQuotient false (sharedWords a b) smaller

def overlapRatio (a b : String) : Binary64 := setOverlapRatio (wordSet a) (wordSet b)

end MarketBrief
