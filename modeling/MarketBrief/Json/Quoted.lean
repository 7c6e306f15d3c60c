import MarketBrief.Text.Basic

/-!
# Quoted strings

Between its quotes a JSON string holds characters and escapes. An escape `\u` names a unit of UTF-16; two units that
form a surrogate pair name one character, and a unit that is half a pair names none.

* `escape`: the written form of a text, without the quotes;
* `scanQuoted`: the pieces up to the closing quote, and the text behind it;
* `textOf?`: the text that the pieces name, if each of them names a character.
-/

namespace MarketBrief.Json

/-! ### Writing -/

/-- A hexadecimal digit, small letters above nine. -/
def hexDigit (n : Nat) : Char := if n < 10 then Char.ofNat (48 + n) else Char.ofNat (87 + n)

/-- The written form of a character: quotes, backslashes and controls are escaped, everything else stands for itself. -/
def escapeChar (c : Char) : List Char :=
  if c = '"' then ['\\', '"']
  else if c = '\\' then ['\\', '\\']
  else if c = '\x08' then ['\\', 'b']
  else if c = '\t' then ['\\', 't']
  else if c = '\n' then ['\\', 'n']
  else if c = '\x0c' then ['\\', 'f']
  else if c = '\r' then ['\\', 'r']
  else if c.toNat < 32 then ['\\', 'u', '0', '0', hexDigit (c.toNat / 16), hexDigit (c.toNat % 16)]
  else [c]

/-- The written form of a text, without quotes around it. -/
def escape (cs : List Char) : List Char := cs.flatMap escapeChar

/-- The written form of a text, with quotes around it. -/
def quoted (cs : List Char) : List Char := '"' :: escape cs ++ ['"']

/-! ### Reading -/

/-- What stands between quotes: a character, or a unit of UTF-16 named by an escape. -/
inductive Piece where
  | char (c : Char)
  | unit (n : Nat)
  deriving DecidableEq

/-- The value of a hexadecimal digit in either case. -/
def hexValue? (c : Char) : Option Nat :=
  if c.isDigit then some (c.toNat - 48)
  else if 'a' ≤ c ∧ c ≤ 'f' then some (c.toNat - 87)
  else if 'A' ≤ c ∧ c ≤ 'F' then some (c.toNat - 55)
  else none

/-- The number that four hexadecimal digits write. -/
def hexUnit? (a b c d : Char) : Option Nat := do
  return (((← hexValue? a) * 16 + (← hexValue? b)) * 16 + (← hexValue? c)) * 16 + (← hexValue? d)

/-- The character that a backslash and one character name. -/
def escaped? : Char → Option Char
  | '"' => some '"'
  | '\\' => some '\\'
  | '/' => some '/'
  | 'b' => some '\x08'
  | 'f' => some '\x0c'
  | 'n' => some '\n'
  | 'r' => some '\r'
  | 't' => some '\t'
  | _ => none

/-- The pieces up to the closing quote and the text behind the quote. Control characters must be escaped. -/
def scanQuoted : List Char → Option (List Piece × List Char)
  | [] => none
  | '"' :: cs => some ([], cs)
  | '\\' :: 'u' :: a :: b :: c :: d :: cs => do
    let n ← hexUnit? a b c d
    let (pieces, rest) ← scanQuoted cs
    return (.unit n :: pieces, rest)
  | '\\' :: e :: cs => do
    let c ← escaped? e
    let (pieces, rest) ← scanQuoted cs
    return (.char c :: pieces, rest)
  | c :: cs =>
    if c = '\\' ∨ c.toNat < 32 then none
    else do
      let (pieces, rest) ← scanQuoted cs
      return (.char c :: pieces, rest)

theorem length_of_scanQuoted {cs rest : List Char} {pieces : List Piece}
    (h : scanQuoted cs = some (pieces, rest)) : rest.length < cs.length := by
  fun_induction scanQuoted cs generalizing pieces with
  | case1 => simp at h
  | case2 cs => simp_all
  | case3 a b c d cs ih =>
    simp only [Option.bind_eq_bind, Option.bind_eq_some_iff, Option.pure_def, Option.some.injEq, Prod.mk.injEq,
      Prod.exists] at h
    obtain ⟨_, _, _, _, h, _, rfl⟩ := h
    have := ih h
    simp only [List.length_cons]
    omega
  | case4 e cs _ ih =>
    simp only [Option.bind_eq_bind, Option.bind_eq_some_iff, Option.pure_def, Option.some.injEq, Prod.mk.injEq,
      Prod.exists] at h
    obtain ⟨_, _, _, _, h, _, rfl⟩ := h
    have := ih h
    simp only [List.length_cons]
    omega
  | case5 => simp at h
  | case6 c cs _ _ _ _ ih =>
    simp only [Option.bind_eq_bind, Option.bind_eq_some_iff, Option.pure_def, Option.some.injEq, Prod.mk.injEq,
      Prod.exists] at h
    obtain ⟨_, _, h, _, rfl⟩ := h
    have := ih h
    simp only [List.length_cons]
    omega

/-- Whether a unit is the first half of a surrogate pair. -/
def isHighHalf (n : Nat) : Bool := 0xD800 ≤ n && n < 0xDC00

/-- Whether a unit is the second half of a surrogate pair. -/
def isLowHalf (n : Nat) : Bool := 0xDC00 ≤ n && n < 0xE000

/-- The text that pieces name; there is none if half a pair stands alone. -/
def textOf? : List Piece → Option (List Char)
  | [] => some []
  | .char c :: ps => (textOf? ps).map (c :: ·)
  | .unit hi :: .unit lo :: ps =>
    if isHighHalf hi then
      if isLowHalf lo then (textOf? ps).map (Char.ofNat (0x10000 + (hi - 0xD800) * 0x400 + (lo - 0xDC00)) :: ·)
      else none
    else if isLowHalf hi then none
    else (textOf? (.unit lo :: ps)).map (Char.ofNat hi :: ·)
  | .unit n :: ps => if isHighHalf n || isLowHalf n then none else (textOf? ps).map (Char.ofNat n :: ·)

end MarketBrief.Json
