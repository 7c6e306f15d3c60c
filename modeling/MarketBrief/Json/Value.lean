/-!
# JSON values

A value as the reader finds it. The text of a number is kept as it is written. A string may hold escapes that name half
of a surrogate pair; such a string has no text, may be skipped, and cannot be read.

* `Value`: the values;
* `Value.ofText`, `Value.ofNat`, `Value.ofTexts`, `Value.record`: the values that are written.
-/

namespace MarketBrief.Json

/-- A JSON value. Members of an object keep their order, and a name may occur twice. -/
inductive Value where
  | null
  | bool (value : Bool)
  | number (text : String)
  | string (text? : Option String)
  | array (items : List Value)
  | object (members : List (Option String × Value))
  deriving Inhabited

namespace Value

def ofText (text : String) : Value := .string (some text)

/-- A natural number in decimal digits. -/
def ofNat (n : Nat) : Value := .number (toString n)

def ofTexts (texts : List String) : Value := .array (texts.map ofText)

/-- An object with the given members in order. -/
def record (members : List (String × Value)) : Value := .object (members.map fun (name, v) => (some name, v))

def ofText? (text? : Option String) : Value := text?.elim .null ofText

end Value

end MarketBrief.Json
