import MarketBrief.Number.Natural
import MarketBrief.Number.Binary64

/-!
# Reading decimal numbers

* `Binary64.ofDecimal`: the number nearest to digits times a power of ten;
* `readDecimal`: the number that a text writes with digits, a point and an exponent, or by a name.
-/

namespace MarketBrief.Number

/-- The number nearest to `digits * 10 ^ exponent`. Beyond 400 decimal places nothing but infinity or zero is near. -/
def Binary64.ofDecimal (negative : Bool) (digits : Nat) (exponent : Int) : Binary64 :=
  if digits = 0 then .finite negative 0
  else if 400 < exponent then .infinite negative
  else if exponent < -(400 + digits.log2 : Int) then .finite negative 0
  else if 0 ≤ exponent then .ofQuotient negative (digits * Nat.pow 10 exponent.toNat) 1
  else .ofQuotient negative digits (Nat.pow 10 (-exponent).toNat)

/-- Whether a text begins with a minus sign, and the text behind its sign. -/
def splitSign : List Char → Bool × List Char
  | '-' :: cs => (true, cs)
  | '+' :: cs => (false, cs)
  | cs => (false, cs)

/-- The exponent that the end of a decimal number writes: none, or the letter `e`, a sign or none, and digits. -/
def readExponent? : List Char → Option Int
  | [] => some 0
  | c :: cs =>
    let (negative, digits) := splitSign cs
    if (c = 'e' ∨ c = 'E') ∧ digits ≠ [] ∧ digits.all Char.isDigit then
      some (if negative then -(digitsValue digits) else digitsValue digits)
    else none

/-- The digits before and behind the point of a decimal number, and the text behind them. -/
def splitPoint (cs : List Char) : List Char × List Char × List Char :=
  let whole := cs.takeWhile Char.isDigit
  match cs.dropWhile Char.isDigit with
  | '.' :: rest => (whole, rest.takeWhile Char.isDigit, rest.dropWhile Char.isDigit)
  | rest => (whole, [], rest)

/-- The digits and the power of ten that a decimal number without a sign writes. -/
def readScaled? (cs : List Char) : Option (Nat × Int) :=
  let (whole, fraction, rest) := splitPoint cs
  if whole = [] ∧ fraction = [] then none
  else (readExponent? rest).map fun e => (digitsValue (whole ++ fraction), e - fraction.length)

/-- The number that a text writes: an optional sign and a decimal number, or one of the names `inf`, `infinity` and
`nan` in any case. -/
def readDecimal (cs : List Char) : Except NumberFault Binary64 :=
  let (negative, unsigned) := splitSign cs
  let name := unsigned.map Char.toLower
  if cs = [] then .error .emptyDecimal
  else if name = "inf".toList ∨ name = "infinity".toList then .ok (.infinite negative)
  else if name = "nan".toList then .ok .nan
  else match readScaled? unsigned with
    | some (digits, exponent) => .ok (.ofDecimal negative digits exponent)
    | none => .error .badDecimal

end MarketBrief.Number
