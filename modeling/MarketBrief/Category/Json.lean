import MarketBrief.Category.Table
import MarketBrief.Json.Record

/-!
# Categories in JSON

* `Group.toJson`, `Group.ofJson?`: a group by its name;
* `Entry.toJson`, `Entry.ofJson?`: an entry as a record of `label` and `keywords`;
* `Table.listing`: the entries of some groups.
-/

namespace MarketBrief.Category

open Json

def Group.toJson (g : Group) : Value := .ofText g.name

def Group.ofName? (name : String) : Option Group := Group.all.find? (·.name = name)

/-- The group that a name writes, or an object with that name for its only member and `null` for its value. -/
def Group.ofJson? : Value → Option Group
  | .string (some name) => ofName? name
  | .object [(some name, .null)] => ofName? name
  | _ => none

def Entry.toJson (e : Entry) : Value := .record [("label", .ofText e.label), ("keywords", .ofTexts e.keywords)]

def Entry.ofJson? (v : Value) : Option Entry := do
  match ← v.fields? ["label", "keywords"] with
  | [some label, some keywords] => return { label := ← label.text?, keywords := ← keywords.texts? }
  | _ => none

/-- Groups with their entries, in the given order. -/
def Table.listing (t : Table) (groups : List Group) : Value :=
  .array (groups.map fun g => .record [("group", g.toJson), ("entries", .array ((t.entries g).map Entry.toJson))])

end MarketBrief.Category
