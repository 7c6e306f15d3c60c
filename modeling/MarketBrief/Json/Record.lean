import MarketBrief.Json.Value

/-!
# Records in JSON

A record is written as an object of its fields. It may also be written as an array of them in their order. Members
that are no fields are passed over, but a field must not occur twice.

* `Value.fields?`: the fields of a record, each if it is there;
* `Value.text?`, `Value.list?`, `Value.texts?`, `Value.textMembers?`: texts, lists, and objects of texts.
-/

namespace MarketBrief.Json.Value

def text? : Value → Option String
  | .string text? => text?
  | _ => none

/-- The items of an array, each read as `read?` says. -/
def list? {α : Type} (read? : Value → Option α) : Value → Option (List α)
  | .array items => items.mapM read?
  | _ => none

def texts? : Value → Option (List String) := list? text?

/-- The names and texts of an object whose members are strings. -/
def textMembers? : Value → Option (List (String × String))
  | .object members => members.mapM fun (name, v) => do return (← name, ← v.text?)
  | _ => none

/-- Whether each name is a text, and none of `known` occurs twice. -/
def namesOk (known : List String) (members : List (Option String × Value)) : Bool :=
  members.all (·.1.isSome) && known.all fun name => members.countP (·.1 == some name) ≤ 1

/-- The fields of a record with these names, in the order of the names. A field that is not there is `none`. -/
def fields? (names : List String) : Value → Option (List (Option Value))
  | .object members =>
    if namesOk names members then some (names.map fun name => members.lookup (some name)) else none
  | .array items =>
    if items.length ≤ names.length then
      some (items.map some ++ List.replicate (names.length - items.length) none)
    else none
  | _ => none

end MarketBrief.Json.Value
