import MarketBrief.Text.Basic
import MarketBrief.Unicode.Settled

/-!
# Tokens

A token is a lowercase word: groups of letters and numbers joined by single hyphens, so that `peer-to-peer` is one
token. Marks, blanks, and hyphens that do not join two groups separate tokens.

* `isTokenChar`: the characters of groups;
* `tokensOf`: the tokens of a lowercase text;
* `tokenize`: the tokens of any text.
-/

namespace MarketBrief.Token

open Unicode

/-- A letter or a number of any script. -/
def isTokenChar (c : Char) : Bool := isSettledLetter c || isSettledNumber c

/-- The token that is being read, unless it is empty; it is reversed. -/
def finished (token : List Char) : List (List Char) := if token = [] then [] else [token.reverse]

/-- The tokens of the text that follows `token`, the reversed beginning of a token. A hyphen continues a token if it
stands between two of its groups. -/
def tokensAfter (token : List Char) : List Char → List (List Char)
  | [] => finished token
  | c :: cs =>
    if isTokenChar c then tokensAfter (c :: token) cs
    else if c = '-' ∧ token ≠ [] ∧ cs.head?.any isTokenChar then tokensAfter (c :: token) cs
    else finished token ++ tokensAfter [] cs

/-- The tokens of a lowercase text in reading order. -/
def tokensOf (cs : List Char) : List (List Char) := tokensAfter [] cs

/-- The tokens of a text in reading order. -/
def tokenize (text : String) : List String := (tokensOf (lower text.toList)).map String.ofList

end MarketBrief.Token
