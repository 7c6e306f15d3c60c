import MarketBrief.Sentence.Boundary
import MarketBrief.Unicode.Settled

/-!
# What is worth knowing of a sentence

* `wordCount`: how many words it has;
* `hasTerminalMark`: whether it ends as sentences do, closing marks aside;
* `hasGluedWords`: whether two words are glued by a stop without a space, as in `markets.The`;
* `isFragment`: whether it begins with a small letter, as a piece cut out of a paragraph does.
-/

namespace MarketBrief.Sentence

open Unicode

def wordCount (sentence : String) : Nat := (Text.words sentence.toList).length

/-- Whether the last character is a mark that ends sentences, blanks at the end and closing marks before them aside. -/
def hasTerminalMark (sentence : String) : Bool :=
  ((sentence.toList.reverse.dropWhile isBlank).dropWhile isClosing).head?.any isTerminal

/-- Whether a dot or comma somewhere joins a word of small letters to a word with a capital. -/
def gluesWords : List Char → Bool
  | a :: b :: stop :: c :: d :: cs =>
    (isSettledSmallLetter a && isSettledSmallLetter b && (stop == '.' || stop == ',')
        && isSettledCapitalLetter c && isSettledSmallLetter d)
      || gluesWords (b :: stop :: c :: d :: cs)
  | _ => false

/-- Whether the sentence shows words glued by a stop, the trace of lost markup. -/
def hasGluedWords (sentence : String) : Bool := gluesWords sentence.toList

/-- Whether the sentence begins with a small letter. -/
def isFragment (sentence : String) : Bool := sentence.toList.head?.any isLowercase

end MarketBrief.Sentence
