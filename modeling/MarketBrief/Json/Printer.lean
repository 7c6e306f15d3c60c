import MarketBrief.Json.Value
import MarketBrief.Json.Quoted

/-!
# Writing JSON

* `Value.compact`: a value without blanks;
* `Value.pretty`: a value with one item or member a line, indented by two spaces for each array or object around it. An
  empty array or object stays on its line.
-/

namespace MarketBrief.Json

/-- The written form of a string; one that has no text is written empty. -/
def quotedText (text? : Option String) : List Char := quoted ((text?.getD "").toList)

mutual

/-- The compact form of a value. -/
def Value.compact : Value → List Char
  | .null => ['n', 'u', 'l', 'l']
  | .bool true => ['t', 'r', 'u', 'e']
  | .bool false => ['f', 'a', 'l', 's', 'e']
  | .number text => text.toList
  | .string text? => quotedText text?
  | .array [] => ['[', ']']
  | .array (v :: vs) => '[' :: v.compact ++ compactItems vs
  | .object [] => ['\x7b', '\x7d']
  | .object ((name, v) :: ms) => '\x7b' :: quotedText name ++ ':' :: v.compact ++ compactMembers ms

/-- The compact form of the items behind the first one, with the end of their array. -/
def compactItems : List Value → List Char
  | [] => [']']
  | v :: vs => ',' :: v.compact ++ compactItems vs

/-- The compact form of the members behind the first one, with the end of their object. -/
def compactMembers : List (Option String × Value) → List Char
  | [] => ['\x7d']
  | (name, v) :: ms => ',' :: quotedText name ++ ':' :: v.compact ++ compactMembers ms

end

/-- A line end and the indentation of the line behind it. -/
def newLine (depth : Nat) : List Char := '\n' :: List.replicate (2 * depth) ' '

mutual

/-- The indented form of a value inside `depth` arrays and objects. -/
def Value.prettyAt (depth : Nat) : Value → List Char
  | .array (v :: vs) => '[' :: newLine (depth + 1) ++ v.prettyAt (depth + 1) ++ prettyItems depth vs
  | .object ((name, v) :: ms) =>
    '\x7b' :: newLine (depth + 1) ++ quotedText name ++ ':' :: ' ' :: v.prettyAt (depth + 1)
      ++ prettyMembers depth ms
  | v => v.compact

/-- The indented form of the items behind the first one, with the end of their array. -/
def prettyItems (depth : Nat) : List Value → List Char
  | [] => newLine depth ++ [']']
  | v :: vs => ',' :: newLine (depth + 1) ++ v.prettyAt (depth + 1) ++ prettyItems depth vs

/-- The indented form of the members behind the first one, with the end of their object. -/
def prettyMembers (depth : Nat) : List (Option String × Value) → List Char
  | [] => newLine depth ++ ['\x7d']
  | (name, v) :: ms =>
    ',' :: newLine (depth + 1) ++ quotedText name ++ ':' :: ' ' :: v.prettyAt (depth + 1)
      ++ prettyMembers depth ms

end

def Value.pretty (v : Value) : String := String.ofList (v.prettyAt 0)

def Value.line (v : Value) : String := String.ofList v.compact

end MarketBrief.Json
