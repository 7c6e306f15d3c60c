import MarketBrief.Token

/-!
# Vocabularies

A vocabulary decides which sentences are worth keeping. Its terms are tokenized as texts are, and fall into single
words and phrases of several words.

* `Lexicon.ofTerms`: the vocabulary of a list of terms, each term once;
* `Lexicon.scoreTokens`: how often terms occur in a list of tokens, a final `s` folded away;
* `Lexicon.score`: the same for a text.
-/

namespace MarketBrief

open Token

/-- The terms of a vocabulary: single words, and phrases of at least two words. -/
structure Lexicon where
  words : List String
  phrases : List (List String)
  deriving DecidableEq, Repr

/-- The word without its final `s`. A word that ends in `ss` has no such form, nor has one that takes up at most three
bytes in UTF-8. -/
def singular? (word : String) : Option String :=
  match word.toList.reverse with
  | 's' :: 's' :: _ => none
  | 's' :: stem => if 3 < word.utf8ByteSize then some (String.ofList stem.reverse) else none
  | _ => none

namespace Lexicon

/-- The vocabulary of a list of terms. A term without tokens adds nothing. -/
def ofTerms (terms : List String) : Lexicon :=
  let tokenized := terms.map tokenize
  { words := (tokenized.filter (·.length = 1)).flatten.eraseDups
    phrases := (tokenized.filter (2 ≤ ·.length)).eraseDups }

def size (l : Lexicon) : Nat := l.words.length + l.phrases.length

def isEmpty (l : Lexicon) : Bool := l.words.isEmpty && l.phrases.isEmpty

def hasWord (l : Lexicon) (token : String) : Bool :=
  l.words.contains token || (singular? token).any l.words.contains

/-- Whether the tokens begin with the phrase; its last word also stands for its plural. -/
def beginsPhrase : (phrase tokens : List String) → Bool
  | [], _ => true
  | _ :: _, [] => false
  | [last], t :: _ => t == last || singular? t == some last
  | p :: ps, t :: ts => t == p && beginsPhrase ps ts

/-- The number of places at which a phrase begins. -/
def phraseHits (phrase : List String) : List String → Nat
  | [] => 0
  | t :: ts => (if beginsPhrase phrase (t :: ts) then 1 else 0) + phraseHits phrase ts

/-- The number of places at which a word or a phrase of the vocabulary occurs, for each of them. -/
def scoreTokens (l : Lexicon) (tokens : List String) : Nat :=
  tokens.countP l.hasWord + (l.phrases.map (phraseHits · tokens)).foldr (· + ·) 0

def score (l : Lexicon) (text : String) : Nat := l.scoreTokens (tokenize text)

end Lexicon

end MarketBrief
