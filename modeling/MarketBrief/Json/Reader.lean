import MarketBrief.Json.Token

/-!
# Reading JSON

The reader is a machine that takes one token at a time. It remembers the arrays and objects that are open, innermost
first, and what may come next.

* `Open`, `State`: what is remembered;
* `State.step`: the effect of a token;
* `Value.read?`: the value of a text that holds exactly one.
-/

namespace MarketBrief.Json

/-- An array or object that is being read; its finished parts come last first. -/
inductive Open where
  | array (items : List Value)
  | member (members : List (Option String × Value)) (name : Option String)

/-- What may come next, with the open arrays and objects around it. -/
inductive State where
  /-- A value must come. -/
  | value (around : List Open)
  /-- An array has just been opened: its first item or its end must come. -/
  | arrayStart (around : List Open)
  /-- An object has just been opened: its first name or its end must come. -/
  | objectStart (around : List Open)
  /-- A comma has been read in an object: a name must come. -/
  | nextName (members : List (Option String × Value)) (around : List Open)
  /-- A name has been read: a colon must come. -/
  | colon (members : List (Option String × Value)) (name : Option String) (around : List Open)
  /-- A value is complete: a comma or an end must come, or nothing if no array or object is open. -/
  | complete (value : Value) (around : List Open)

namespace State

def beginValue (around : List Open) : Token → Option State
  | .null => some (.complete .null around)
  | .bool b => some (.complete (.bool b) around)
  | .number text => some (.complete (.number text) around)
  | .string text? => some (.complete (.string text?) around)
  | .openArray => some (.arrayStart around)
  | .openObject => some (.objectStart around)
  | _ => none

/-- The effect of a token, if it may come next. -/
def step : State → Token → Option State
  | .value around, t => beginValue around t
  | .arrayStart around, .closeArray => some (.complete (.array []) around)
  | .arrayStart around, t => beginValue (.array [] :: around) t
  | .objectStart around, .closeObject => some (.complete (.object []) around)
  | .objectStart around, .string name => some (.colon [] name around)
  | .nextName members around, .string name => some (.colon members name around)
  | .colon members name around, .colon => some (.value (.member members name :: around))
  | .complete v (.array items :: around), .comma => some (.value (.array (v :: items) :: around))
  | .complete v (.array items :: around), .closeArray => some (.complete (.array (v :: items).reverse) around)
  | .complete v (.member members name :: around), .comma => some (.nextName ((name, v) :: members) around)
  | .complete v (.member members name :: around), .closeObject =>
    some (.complete (.object ((name, v) :: members).reverse) around)
  | _, _ => none

/-- The value that has been read, if it is complete and nothing is open. -/
def result? : State → Option Value
  | .complete v [] => some v
  | _ => none

end State

def Value.ofTokens? (tokens : List Token) : Option Value := do
  let state ← tokens.foldlM State.step (.value [])
  state.result?

/-- The value of a text that holds exactly one value. -/
def Value.read? (text : String) : Option Value := Token.scan text.toList >>= Value.ofTokens?

end MarketBrief.Json
