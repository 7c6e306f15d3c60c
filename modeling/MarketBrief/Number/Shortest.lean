import MarketBrief.Number.Binary64

/-!
# The shortest decimal text of a number

All decimals in a certain interval around a number are read as that number. Its text is the decimal of the interval
with the fewest digits, and of those the nearest one. It is written without an exponent.

* `Interval.around`: the interval of a positive number;
* `Interval.pointOn?`: the nearest multiple of a power of ten within it;
* `Binary64.text`: the text of any number.
-/

namespace MarketBrief.Number

/-- An interval around a value, in quarters of a unit; its ends belong to it if `closed` says so. -/
structure Interval where
  low : Nat
  value : Nat
  high : Nat
  closed : Bool

/-- The interval of decimals that are read as the number with these units. Halfway to its neighbours a decimal is read
as the number with the even last bit; below a power of two the neighbours are half as far apart. -/
def Interval.around (units : Nat) : Interval :=
  let e := stepExponent units
  let significand := units / Nat.pow 2 e
  let atPower := significand = Nat.pow 2 52 ∧ 0 < e
  let below := if atPower then Nat.pow 2 e else Nat.pow 2 (e + 1)
  ⟨4 * units - below, 4 * units, 4 * units + Nat.pow 2 (e + 1), significand % 2 = 0⟩

def Interval.scale (i : Interval) (factor : Nat) : Interval :=
  ⟨i.low * factor, i.value * factor, i.high * factor, i.closed⟩

def Interval.has (i : Interval) (point : Nat) : Bool :=
  if i.closed then i.low ≤ point && point ≤ i.high else i.low < point && point < i.high

/-- The multiple of `step` that is nearest to the value, if one of the two around the value lies in the interval; given
as the number of steps. -/
def Interval.nearest? (i : Interval) (step : Nat) : Option Nat :=
  let below := i.value / step
  let above := below + 1
  if i.has (below * step) && i.has (above * step) then
    some (if i.value - below * step < above * step - i.value then below else above)
  else if i.has (below * step) then some below
  else if i.has (above * step) then some above
  else none

def quartersInOne : Nat := 4 * unitsInOne

/-- The multiple of a power of ten that lies in the interval and is nearest to its value, given as the number of such
powers. -/
def Interval.pointOn? (i : Interval) (exponent : Int) : Option Nat :=
  if 0 ≤ exponent then i.nearest? (quartersInOne * Nat.pow 10 exponent.toNat)
  else (i.scale (Nat.pow 10 (-exponent).toNat)).nearest? quartersInOne

/-- The powers of ten on which the point with the fewest digits is looked for, the largest first. -/
def exponents : List Int := (List.range 640).map fun (i : Nat) => 309 - (i : Int)

/-- The digits and the power of ten of the shortest decimal for a positive number with these units. -/
def shortest? (units : Nat) : Option (Nat × Int) :=
  exponents.findSome? fun e => ((Interval.around units).pointOn? e).map (·, e)

/-- Digits times a power of ten, written with a point and zeros where they are needed. -/
def positional (digits : Nat) (exponent : Int) : String :=
  let ds := (Nat.toDigits 10 digits)
  if 0 ≤ exponent then String.ofList (ds ++ List.replicate exponent.toNat '0')
  else
    let places := (-exponent).toNat
    if places < ds.length then
      String.ofList (ds.take (ds.length - places) ++ '.' :: ds.drop (ds.length - places))
    else String.ofList ('0' :: '.' :: List.replicate (places - ds.length) '0' ++ ds)

def signText (negative : Bool) : String := if negative then "-" else ""

/-- The shortest text that is read as the number. -/
def Binary64.text : Binary64 → String
  | .nan => "NaN"
  | .infinite n => signText n ++ "inf"
  | .finite n units =>
    match if units = 0 then none else shortest? units with
    | some (digits, exponent) => signText n ++ positional digits exponent
    | none => signText n ++ "0"

end MarketBrief.Number
