/-!
# Reading whole numbers

* `digitsValue`: the number that decimal digits write;
* `readNatural`: a number between zero and `maxNatural`, read digit by digit; the first fault ends the reading;
* `NumberFault.message`: what is said of a fault.
-/

namespace MarketBrief.Number

/-- Why a text writes no number. -/
inductive NumberFault where
  | emptyInteger
  | badDigit
  | tooLarge
  | emptyDecimal
  | badDecimal
  deriving DecidableEq, Repr

def NumberFault.message : NumberFault → String
  | .emptyInteger => "cannot parse integer from empty string"
  | .badDigit => "invalid digit found in string"
  | .tooLarge => "number too large to fit in target type"
  | .emptyDecimal => "cannot parse float from empty string"
  | .badDecimal => "invalid float literal"

def digitValue (c : Char) : Nat := c.toNat - 48

/-- The number that decimal digits write. -/
def digitsValue (digits : List Char) : Nat := digits.foldl (fun n c => 10 * n + digitValue c) 0

/-- The largest number that is read. -/
def maxNatural : Nat := Nat.pow 2 64 - 1

/-- The number that digits write behind a number already read. A character that is no digit is found before the number
grows too large at the same place. -/
def readDigitsAfter (n : Nat) : List Char → Except NumberFault Nat
  | [] => .ok n
  | c :: cs =>
    if !c.isDigit then .error .badDigit
    else if maxNatural < 10 * n + digitValue c then .error .tooLarge
    else readDigitsAfter (10 * n + digitValue c) cs

/-- The number that a text writes: an optional plus sign and at least one digit. -/
def readNatural : List Char → Except NumberFault Nat
  | [] => .error .emptyInteger
  | '+' :: cs => if cs = [] then .error .badDigit else readDigitsAfter 0 cs
  | cs => readDigitsAfter 0 cs

end MarketBrief.Number
