/-!
# Binary floating point of 64 bits

Every finite number of this format is a multiple of the least positive one, 2 to the power -1074. So a finite number is
a sign and a count of these units, and order and rounding are arithmetic of natural numbers.

* `roundHalfEven`: a quotient rounded to the nearest natural number;
* `quotientUnits`: a quotient rounded to 53 significant bits, in units;
* `Binary64.ofQuotient`: the number nearest to a quotient;
* `Binary64.le`, `Binary64.lt`: the order, in which a number that is none is not comparable;
* `Binary64.toBits`: the encoding.
-/

namespace MarketBrief.Number

/-! ### Rounding -/

/-- The quotient rounded to the nearest natural number; halves go to the even neighbour. -/
def roundHalfEven (num den : Nat) : Nat :=
  let q := num / den
  let r := num % den
  if 2 * r < den then q else if den < 2 * r then q + 1 else q + q % 2

def unitsInOne : Nat := Nat.pow 2 1074

/-- The exponent of the step between numbers near `units`: 53 bits are significant, and no step is finer than one
unit. -/
def stepExponent (units : Nat) : Nat := units.log2 - 52

/-- The quotient in units, rounded to 53 significant bits. -/
def quotientUnits (num den : Nat) : Nat :=
  let scaled := num * unitsInOne
  let step := Nat.pow 2 (stepExponent (scaled / den))
  roundHalfEven scaled (den * step) * step

/-! ### Numbers -/

/-- A binary floating-point number. -/
inductive Binary64 where
  | nan
  | infinite (negative : Bool)
  | finite (negative : Bool) (units : Nat)
  deriving DecidableEq, Repr

namespace Binary64

def zero : Binary64 := .finite false 0

def one : Binary64 := .finite false unitsInOne

/-- The number nearest to a quotient; from 2 to the power 1024 on it is infinite. -/
def ofQuotient (negative : Bool) (num den : Nat) : Binary64 :=
  let units := quotientUnits num den
  if units < Nat.pow 2 1024 * unitsInOne then .finite negative units else .infinite negative

def signedUnits (negative : Bool) (units : Nat) : Int := if negative then -units else units

/-- Whether the first number is less than the second. -/
def lt : Binary64 → Binary64 → Bool
  | .nan, _ => false
  | _, .nan => false
  | .infinite n, .infinite m => n && !m
  | .infinite n, .finite .. => n
  | .finite .., .infinite m => !m
  | .finite n a, .finite m b => signedUnits n a < signedUnits m b

/-- Whether the first number is less than or equal to the second. Both zeros are equal. -/
def le : Binary64 → Binary64 → Bool
  | .nan, _ => false
  | _, .nan => false
  | .infinite n, .infinite m => n || !m
  | .infinite n, .finite .. => n
  | .finite .., .infinite m => !m
  | .finite n a, .finite m b => signedUnits n a ≤ signedUnits m b

/-- Whether a number lies between zero and one, both included. -/
def isFraction (x : Binary64) : Bool := le zero x && le x one

def signBit (negative : Bool) : Nat := if negative then Nat.pow 2 63 else 0

/-- The encoding in 64 bits. Below the sign, the encodings of the finite numbers count the numbers from zero on. -/
def toBits : Binary64 → Nat
  | .nan => 0x7FF8000000000000
  | .infinite n => signBit n + 0x7FF0000000000000
  | .finite n units => signBit n + stepExponent units * Nat.pow 2 52 + units / Nat.pow 2 (stepExponent units)

end Binary64

end MarketBrief.Number
