import MarketBrief.Category.Fintech
import MarketBrief.Yaml.Document

/-!
# Tables from files

A table is written in YAML as a mapping of the three groups, each a sequence of entries.

* `TableError`: why there is no table;
* `Table.read`: the table of a text;
* `Table.load`: the table of a file, given its contents if it can be read.
-/

namespace MarketBrief.Category

open Yaml

/-- Why there is no table. -/
inductive TableError where
  | unreadable
  | malformed
  | missingGroup (group : Group)
  | faulty (fault : TableFault)
  deriving DecidableEq, Repr

/-- What is said of an error. The details of a text that cannot be read as YAML are left to others. -/
def TableError.message : TableError → String
  | .unreadable => "failed to read category file"
  | .malformed => "failed to parse category file"
  | .missingGroup g => "category table is missing required group '" ++ g.name ++ "'"
  | .faulty f => f.message

def Entry.ofYaml (d : Yaml.Document) (n : Node Nat) : Reading Entry := do
  match ← d.fields ["label", "keywords"] n with
  | [some label, some keywords] => return { label := ← d.text label, keywords := ← d.list d.text keywords }
  | _ => failure

/-- The entries of each group that a mapping writes, in the order of the groups. A group may be missing or null. -/
def groupsOfYaml (d : Yaml.Document) (n : Node Nat) : Reading (List (Option (List Entry))) := do
  (← d.fields (Group.all.map Group.name) n).mapM fun
    | none => return none
    | some n => d.optionalList (Entry.ofYaml d) n

def groupsOfText? (text : String) : Option (List (Option (List Entry))) := do
  let d ← Yaml.Document.read? text
  d.decode? (groupsOfYaml d)

/-- The table of a text. A missing group is found once the whole text has been read, and faults of entries last. -/
def Table.read (text : String) : Except TableError Table :=
  match groupsOfText? text with
  | some [themes?, risks?, signals?] => do
    let some themes := themes? | throw (.missingGroup .themes)
    let some risks := risks? | throw (.missingGroup .risks)
    let some signals := signals? | throw (.missingGroup .signals)
    (Table.make themes risks signals).mapError .faulty
  | _ => .error .malformed

/-- The table of a file with these contents, if it can be read as text. -/
def Table.load (contents? : Option String) : Except TableError Table :=
  match contents? with
  | none => .error .unreadable
  | some text => Table.read text

end MarketBrief.Category
