import MarketBrief.Text.Basic

/-!
# Category tables

A thesis is ranked against three groups of categories. A category is a label with keywords.

* `Group`, `Entry`, `Table`: the data;
* `normalEntry`: an entry in normal form, or the first fault of it;
* `Table.make`: the table of three lists of entries in normal form, or the first fault of all.
-/

namespace MarketBrief.Category

open Text

/-- The groups of categories. -/
inductive Group where
  | themes | risks | signals
  deriving DecidableEq, Repr

def Group.name : Group → String
  | .themes => "themes"
  | .risks => "risks"
  | .signals => "signals"

def Group.all : List Group := [.themes, .risks, .signals]

/-- A category: a label and the keywords that speak for it. -/
structure Entry where
  label : String
  keywords : List String
  deriving DecidableEq, Repr

/-- The categories of each group; their order breaks ties. -/
structure Table where
  themes : List Entry
  risks : List Entry
  signals : List Entry
  deriving DecidableEq, Repr

def Table.entries (t : Table) : Group → List Entry
  | .themes => t.themes
  | .risks => t.risks
  | .signals => t.signals

/-! ### Normal form -/

/-- What is wrong with an entry. -/
inductive Fault where
  | emptyLabel
  | duplicateLabel (label : String)
  | noKeywords (label : String)
  | blankKeyword (label : String)
  deriving DecidableEq, Repr

/-- What is said of a fault within its group. -/
def Fault.text : Fault → String
  | .emptyLabel => "category label must be non-empty"
  | .duplicateLabel label => "duplicate category label '" ++ label ++ "'"
  | .noKeywords label => "category '" ++ label ++ "' has no keywords"
  | .blankKeyword label => "category '" ++ label ++ "' has a blank keyword"

/-- A fault and the group in which it is. -/
structure TableFault where
  group : Group
  fault : Fault
  deriving DecidableEq, Repr

def TableFault.message (f : TableFault) : String :=
  "category table validation failed: " ++ f.group.name ++ ": " ++ f.fault.text

/-- The keyword without blanks at its ends and in lowercase. -/
def normalKeyword (keyword : String) : String := lowered (trimmed keyword)

/-- The entry with its label trimmed and its keywords in normal form, each once; `seen` are the labels before it, in
lowercase. -/
def normalEntry (seen : List String) (e : Entry) : Except Fault Entry :=
  let label := trimmed e.label
  let keywords := e.keywords.map normalKeyword
  if label = "" then .error .emptyLabel
  else if lowered label ∈ seen then .error (.duplicateLabel label)
  else if keywords = [] then .error (.noKeywords label)
  else if "" ∈ keywords then .error (.blankKeyword label)
  else .ok ⟨label, keywords.eraseDups⟩

/-- The entries in normal form, behind entries whose lowercase labels are `seen`. -/
def normalEntries (seen : List String) : List Entry → Except Fault (List Entry)
  | [] => .ok []
  | e :: es => do
    let e ← normalEntry seen e
    let es ← normalEntries (lowered e.label :: seen) es
    return e :: es

def normalGroup (group : Group) (entries : List Entry) : Except TableFault (List Entry) :=
  (normalEntries [] entries).mapError (⟨group, ·⟩)

/-- The table of three lists of entries, unless one of them has a fault. -/
def Table.make (themes risks signals : List Entry) : Except TableFault Table := do
  let themes ← normalGroup .themes themes
  let risks ← normalGroup .risks risks
  let signals ← normalGroup .signals signals
  return { themes, risks, signals }

end MarketBrief.Category
