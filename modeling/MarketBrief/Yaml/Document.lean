import MarketBrief.Yaml.Node

/-!
# YAML documents

An alias stands for the node that carries its anchor. Anchors are numbered in the order of the text; an anchor takes as
its number how many names were known before it. An alias is read anew each time it is met, so that a small text can
stand for a very long one; hence the aliases that are followed are counted, and there is a limit to them.

* `Document`: the root and the anchored nodes by number;
* `Document.read?`: the only document of a text;
* `Reading`, `Document.decode?`: what a document is read as, while the aliases that are followed are counted;
* `Document.text`, `Document.list`, `Document.optionalList`, `Document.fields`: what a node is read as.
-/

namespace MarketBrief.Yaml

/-! ### Anchors -/

/-- The numbers of the names known, and the nodes by number, those that begin last first. -/
structure Anchors where
  names : List (String × Nat) := []
  nodes : List (Nat × Node Nat) := []

/-- The number of a new anchor, and the anchors with its name. -/
def Anchors.name (a : Anchors) (anchor? : Option String) : Option Nat × Anchors :=
  match anchor? with
  | none => (none, a)
  | some anchor =>
    let n := a.names.length
    (some n, { a with names := (anchor, n) :: a.names.filter (·.1 != anchor) })

/-- The anchors with a node under its number, if it has one. -/
def Anchors.record (a : Anchors) (number? : Option Nat) (node : Node Nat) : Anchors :=
  match number? with
  | none => a
  | some n => { a with nodes := (n, node) :: a.nodes }

/-- The anchors behind a collection, given those before it with its own and those found inside it. -/
def Anchors.around (a inside : Anchors) : Anchors := { inside with nodes := inside.nodes ++ a.nodes }

mutual

/-- The node with numbers for its aliases, all of which must be known. -/
def Node.number? (a : Anchors) : Node String → Option (Node Nat × Anchors)
  | .alias name => (a.names.lookup name).map fun n => (.alias n, a)
  | .scalar anchor? tag? plain text =>
    let (number?, a) := a.name anchor?
    let node := .scalar anchor? tag? plain text
    some (node, a.record number? node)
  | .sequence anchor? items => do
    let (number?, a) := a.name anchor?
    let (items, inside) ← numberItems? { a with nodes := [] } items
    let node := .sequence anchor? items
    return (node, (a.record number? node).around inside)
  | .mapping anchor? pairs => do
    let (number?, a) := a.name anchor?
    let (pairs, inside) ← numberPairs? { a with nodes := [] } pairs
    let node := .mapping anchor? pairs
    return (node, (a.record number? node).around inside)

def numberItems? (a : Anchors) : List (Node String) → Option (List (Node Nat) × Anchors)
  | [] => some ([], a)
  | n :: ns => do
    let (n, a) ← n.number? a
    let (ns, a) ← numberItems? a ns
    return (n :: ns, a)

def numberPairs? (a : Anchors) : List (Node String × Node String) → Option (List (Node Nat × Node Nat) × Anchors)
  | [] => some ([], a)
  | (k, v) :: ps => do
    let (k, a) ← k.number? a
    let (v, a) ← v.number? a
    let (ps, a) ← numberPairs? a ps
    return ((k, v) :: ps, a)

end

/-! ### Documents -/

/-- A root, missing where the text holds no document, and the anchored nodes. -/
structure Document where
  root : Node Nat
  anchored : List (Nat × Node Nat)

def Document.read? (text : String) : Option Document := do
  match ← root? (← Token.scan? text) with
  | none => return ⟨.missing, []⟩
  | some root =>
    let (root, anchors) ← root.number? {}
    return ⟨root, anchors.nodes⟩

/-! ### Sizes -/

mutual

/-- The size of a node: two for the ends of a collection, and one for any other node. -/
def Node.size {Ref : Type} : Node Ref → Nat
  | .alias _ => 1
  | .scalar _ _ _ _ => 1
  | .sequence _ items => 2 + sizeOfItems items
  | .mapping _ pairs => 2 + sizeOfPairs pairs

def sizeOfItems {Ref : Type} : List (Node Ref) → Nat
  | [] => 0
  | n :: ns => n.size + sizeOfItems ns

def sizeOfPairs {Ref : Type} : List (Node Ref × Node Ref) → Nat
  | [] => 0
  | (k, v) :: ps => k.size + v.size + sizeOfPairs ps

end

/-! ### Reading -/

/-- What is read of a document, or no result; the number of aliases that may still be followed is handed on. -/
abbrev Reading (α : Type) : Type := StateT Nat Option α

namespace Document

/-- How many aliases may be followed while a document is read: a hundred for each unit of its size. -/
def aliasLimit (d : Document) : Nat := 100 * d.root.size

def decode? {α : Type} (d : Document) (read : Node Nat → Reading α) : Option α :=
  (read d.root d.aliasLimit).map Prod.fst

/-- The node that a node stands for. -/
def target (d : Document) (n : Node Nat) : Reading (Node Nat) := fun left =>
  match n, left with
  | .alias _, 0 => none
  | .alias i, left + 1 => some ((d.anchored.lookup i).getD n, left)
  | n, left => some (n, left)

def text (d : Document) (n : Node Nat) : Reading String := do
  match ← d.target n with
  | .scalar _ _ _ text => return text
  | _ => failure

/-- The items of a sequence; a plain scalar without text has none. -/
def list {α : Type} (d : Document) (read : Node Nat → Reading α) (n : Node Nat) : Reading (List α) := do
  match ← d.target n with
  | .sequence _ items => items.mapM read
  | .scalar _ _ true "" => return []
  | _ => failure

/-- The plain texts that stand for nothing. -/
def isNullText (text : String) : Bool := ["null", "Null", "NULL", "~"].contains text

def nullTag : String := "tag:yaml.org,2002:null"

/-- Whether a node, which is no alias, stands for nothing; the tag of nothing must not stand before anything else. -/
def isNull? : Node Nat → Option Bool
  | .scalar _ none true text => some (text == "" || isNullText text)
  | .scalar _ (some tag) true text =>
    if tag ≠ nullTag then some false else if isNullText text then some true else none
  | _ => some false

/-- The items of a sequence, or nothing. -/
def optionalList {α : Type} (d : Document) (read : Node Nat → Reading α) (n : Node Nat) :
    Reading (Option (List α)) := do
  let n ← d.target n
  if ← isNull? n then return none else return some (← d.list read n)

/-- The pairs of a mapping; a plain scalar without text has none. -/
def pairs (d : Document) (n : Node Nat) : Reading (List (Node Nat × Node Nat)) := do
  match ← d.target n with
  | .mapping _ pairs => return pairs
  | .scalar _ _ true "" => return []
  | _ => failure

/-- The fields of a mapping with these names, in the order of the names. Its keys must be scalars; other keys are
passed over, but a field must not occur twice. -/
def fields (d : Document) (names : List String) (n : Node Nat) : Reading (List (Option (Node Nat))) := do
  let members ← (← d.pairs n).mapM fun (k, v) => do return (← d.text k, v)
  guard (names.all fun name => members.countP (·.1 == name) ≤ 1)
  return names.map fun name => members.lookup name

end Document

end MarketBrief.Yaml
