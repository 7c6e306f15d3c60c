import MarketBrief.Json.Value
import MarketBrief.Json.Quoted

/-!
# JSON tokens

* `Token`: the six marks, the three names, numbers and strings;
* `numberEnd?`: the text behind the number at a text's beginning;
* `Token.next?`: the token at a text's beginning;
* `Token.scan`: all tokens of a text, with blanks between them left out.
-/

namespace MarketBrief.Json

open Text

/-- A token of JSON text. -/
inductive Token where
  | openArray | closeArray | openObject | closeObject | comma | colon
  | null
  | bool (value : Bool)
  | number (text : String)
  | string (text? : Option String)
  deriving DecidableEq

/-- The four blanks that may stand between tokens. -/
def isSpace (c : Char) : Bool := c == ' ' || c == '\n' || c == '\t' || c == '\r'

/-! ### Numbers -/

/-- The text behind at least one digit and all that follow it. -/
def digitsEnd? : List Char → Option (List Char)
  | c :: cs => if c.isDigit then some (cs.dropWhile Char.isDigit) else none
  | [] => none

/-- The text behind an integer part, which begins with a zero only if it is zero. -/
def integerEnd? : List Char → Option (List Char)
  | '0' :: cs => some cs
  | cs => digitsEnd? cs

/-- The text behind a fraction, if there is one: a point and digits. -/
def fractionEnd? : List Char → Option (List Char)
  | '.' :: cs => digitsEnd? cs
  | cs => some cs

/-- The text behind a sign, if there is one. -/
def afterSign : List Char → List Char
  | '+' :: cs => cs
  | '-' :: cs => cs
  | cs => cs

/-- The text behind an exponent, if there is one: the letter `e`, a sign or none, and digits. -/
def exponentEnd? : List Char → Option (List Char)
  | 'e' :: cs => digitsEnd? (afterSign cs)
  | 'E' :: cs => digitsEnd? (afterSign cs)
  | cs => some cs

/-- The text behind a number without its minus sign. -/
def unsignedEnd? (cs : List Char) : Option (List Char) := integerEnd? cs >>= fractionEnd? >>= exponentEnd?

/-- The text behind the number at the beginning of a text. -/
def numberEnd? : List Char → Option (List Char)
  | '-' :: cs => unsignedEnd? cs
  | cs => unsignedEnd? cs

theorem length_of_digitsEnd? {cs rest : List Char} (h : digitsEnd? cs = some rest) : rest.length < cs.length := by
  unfold digitsEnd? at h
  split at h
  · next c cs =>
    split at h
    · cases h
      exact Nat.lt_succ_of_le (length_dropWhile_le ..)
    · simp at h
  · simp at h

theorem length_of_integerEnd? {cs rest : List Char} (h : integerEnd? cs = some rest) : rest.length < cs.length := by
  unfold integerEnd? at h
  split at h
  · cases h; simp
  · exact length_of_digitsEnd? h

theorem length_of_fractionEnd? {cs rest : List Char} (h : fractionEnd? cs = some rest) :
    rest.length ≤ cs.length := by
  unfold fractionEnd? at h
  split at h
  · have := length_of_digitsEnd? h
    simp only [List.length_cons]
    omega
  · cases h; exact Nat.le_refl _

theorem length_afterSign_le (cs : List Char) : (afterSign cs).length ≤ cs.length := by
  unfold afterSign
  split <;> simp

theorem length_of_exponentEnd? {cs rest : List Char} (h : exponentEnd? cs = some rest) :
    rest.length ≤ cs.length := by
  unfold exponentEnd? at h
  split at h
  · next cs =>
    have h1 := length_of_digitsEnd? h
    have h2 := length_afterSign_le cs
    simp only [List.length_cons]
    omega
  · next cs =>
    have h1 := length_of_digitsEnd? h
    have h2 := length_afterSign_le cs
    simp only [List.length_cons]
    omega
  · cases h; exact Nat.le_refl _

theorem length_of_unsignedEnd? {cs rest : List Char} (h : unsignedEnd? cs = some rest) :
    rest.length < cs.length := by
  obtain ⟨b, hb, h3⟩ := Option.bind_eq_some_iff.1 h
  obtain ⟨a, h1, h2⟩ := Option.bind_eq_some_iff.1 hb
  exact Nat.lt_of_le_of_lt (Nat.le_trans (length_of_exponentEnd? h3) (length_of_fractionEnd? h2))
    (length_of_integerEnd? h1)

theorem length_of_numberEnd? {cs rest : List Char} (h : numberEnd? cs = some rest) : rest.length < cs.length := by
  unfold numberEnd? at h
  split at h
  · exact Nat.lt_succ_of_lt (length_of_unsignedEnd? h)
  · exact length_of_unsignedEnd? h

/-! ### Tokens -/

/-- The number at the beginning of a text, with the text behind it. -/
def Token.number? (cs : List Char) : Option (Token × List Char) :=
  (numberEnd? cs).map fun rest => (.number (String.ofList (cs.take (cs.length - rest.length))), rest)

/-- The token at the beginning of a text, with the text behind it. -/
def Token.next? : List Char → Option (Token × List Char)
  | '[' :: cs => some (.openArray, cs)
  | ']' :: cs => some (.closeArray, cs)
  | '\x7b' :: cs => some (.openObject, cs)
  | '\x7d' :: cs => some (.closeObject, cs)
  | ',' :: cs => some (.comma, cs)
  | ':' :: cs => some (.colon, cs)
  | 'n' :: 'u' :: 'l' :: 'l' :: cs => some (.null, cs)
  | 't' :: 'r' :: 'u' :: 'e' :: cs => some (.bool true, cs)
  | 'f' :: 'a' :: 'l' :: 's' :: 'e' :: cs => some (.bool false, cs)
  | '"' :: cs => (scanQuoted cs).map fun (pieces, rest) => (.string ((textOf? pieces).map String.ofList), rest)
  | cs => Token.number? cs

theorem Token.length_of_next? {cs rest : List Char} {t : Token} (h : Token.next? cs = some (t, rest)) :
    rest.length < cs.length := by
  unfold Token.next? at h
  split at h
  case h_10 cs =>
    obtain ⟨⟨pieces, r⟩, hq, he⟩ := Option.map_eq_some_iff.1 h
    cases he
    exact Nat.lt_succ_of_lt (length_of_scanQuoted hq)
  case h_11 =>
    obtain ⟨r, hr, he⟩ := Option.map_eq_some_iff.1 h
    cases he
    exact length_of_numberEnd? hr
  all_goals
    cases h
    simp +arith

/-- The tokens of a text, if it consists of tokens and blanks between them. -/
def Token.scan : List Char → Option (List Token)
  | [] => some []
  | c :: cs =>
    if isSpace c then Token.scan cs
    else match _ : Token.next? (c :: cs) with
      | none => none
      | some (t, rest) => (Token.scan rest).map (t :: ·)
termination_by cs => cs.length
decreasing_by
  · simp
  · exact Token.length_of_next? (by assumption)

end MarketBrief.Json
