import MarketBrief.Yaml.Token

/-!
# YAML nodes

* `Node`: scalars, sequences, mappings, and aliases of nodes that carry an anchor;
* `node?`: the node at the beginning of a list of tokens;
* `root?`: the root of a list of tokens that holds at most one document.
-/

namespace MarketBrief.Yaml

/-- A node; aliases refer to anchors as `Ref` says. -/
inductive Node (Ref : Type) where
  | alias (ref : Ref)
  | scalar (anchor? : Option String) (tag? : Option String) (plain : Bool) (text : String)
  | sequence (anchor? : Option String) (items : List (Node Ref))
  | mapping (anchor? : Option String) (pairs : List (Node Ref × Node Ref))

/-- The node that stands where none is written. -/
def Node.missing {Ref : Type} : Node Ref := .scalar none none true ""

/-! ### Tags -/

/-- The meanings of handles. -/
abbrev Handles := List (String × String)

/-- The meanings that need no directive. -/
def defaultHandles : Handles := [("!", "!"), ("!!", "tag:yaml.org,2002:")]

/-- The full address of a tag, if its handle has a meaning. -/
def Tag.resolve? (t : Tag) (handles : Handles) : Option String :=
  if t.handle = "" then some t.address else (handles.lookup t.handle).map (· ++ t.address)

/-- An anchor and a tag before a node, either of which may be missing. -/
structure Properties where
  anchor? : Option String := none
  tag? : Option String := none

def Properties.present (p : Properties) : Bool := p.anchor?.isSome || p.tag?.isSome

/-! ### Nodes -/

/-- The tokens behind which a block collection goes on or ends. -/
def endsBlockNode : Token → Bool
  | .key | .value | .blockEntry | .blockEnd => true
  | _ => false

mutual

/-- The node at the beginning of some tokens, and the tokens behind it. Block collections are allowed if `block` says
so, and items without a collection token around them if `bare` does. -/
def node? (handles : Handles) (block bare : Bool) : List Token → Option (Node String × List Token)
  | .alias name :: ts => some (.alias name, ts)
  | .anchor a :: .tag t :: ts => do content? handles block bare ⟨some a, some (← t.resolve? handles)⟩ ts
  | .anchor a :: ts => content? handles block bare ⟨some a, none⟩ ts
  | .tag t :: .anchor a :: ts => do content? handles block bare ⟨some a, some (← t.resolve? handles)⟩ ts
  | .tag t :: ts => do content? handles block bare ⟨none, some (← t.resolve? handles)⟩ ts
  | ts => content? handles block bare {} ts
termination_by ts => (ts.length, 4)

/-- The node at the beginning of some tokens that stand behind its properties. -/
def content? (handles : Handles) (block bare : Bool) (p : Properties) :
    List Token → Option (Node String × List Token)
  | .scalar plain text :: ts => some (.scalar p.anchor? p.tag? plain text, ts)
  | .flowSequenceStart :: ts => do
    let (items, rest) ← flowItems? handles ts
    return (.sequence p.anchor? items, rest)
  | .flowMappingStart :: ts => do
    let (pairs, rest) ← flowPairs? handles ts
    return (.mapping p.anchor? pairs, rest)
  | .blockSequenceStart :: ts => do
    if !block then none
    let (items, rest) ← blockItems? handles ts
    return (.sequence p.anchor? items, rest)
  | .blockMappingStart :: ts => do
    if !block then none
    let (pairs, rest) ← blockPairs? handles ts
    return (.mapping p.anchor? pairs, rest)
  | ts => do
    if bare && ts.head? == some .blockEntry then
      let (items, rest) ← bareItems? handles ts
      return (.sequence p.anchor? items, rest)
    else if p.present then return (.scalar p.anchor? p.tag? true "", ts)
    else none
termination_by ts => (ts.length, 3)

/-- A node, or the missing node where one of the tokens `ends` comes at once. -/
def nodeUnless? (handles : Handles) (ends : Token → Bool) (block bare : Bool) (ts : List Token) :
    Option (Node String × List Token) :=
  if ts.head?.all ends then some (.missing, ts) else node? handles block bare ts
termination_by (ts.length, 5)

/-- The items of a block sequence, up to its end. -/
def blockItems? (handles : Handles) : List Token → Option (List (Node String) × List Token)
  | .blockEnd :: ts => some ([], ts)
  | .blockEntry :: ts => do
    let (item, us) ← nodeUnless? handles (fun t => t == .blockEntry || t == .blockEnd) true false ts
    if us.length ≤ ts.length then
      let (items, rest) ← blockItems? handles us
      return (item :: items, rest)
    else none
  | _ => none
termination_by ts => (ts.length, 0)

/-- The items of a sequence that has no tokens of its own around it. -/
def bareItems? (handles : Handles) : List Token → Option (List (Node String) × List Token)
  | .blockEntry :: ts => do
    let (item, us) ← nodeUnless? handles endsBlockNode true false ts
    if us.length ≤ ts.length then
      let (items, rest) ← bareItems? handles us
      return (item :: items, rest)
    else none
  | ts => some ([], ts)
termination_by ts => (ts.length, 0)

/-- The value of a pair, or the missing node where no value is written. -/
def pairValue? (handles : Handles) (ends : Token → Bool) (block : Bool) :
    List Token → Option (Node String × List Token)
  | .value :: ts => nodeUnless? handles ends block block ts
  | ts => some (.missing, ts)
termination_by ts => (ts.length, 6)

/-- The pairs of a block mapping, up to its end. -/
def blockPairs? (handles : Handles) : List Token → Option (List (Node String × Node String) × List Token)
  | .blockEnd :: ts => some ([], ts)
  | .key :: ts => do
    let ends (t : Token) := t == .key || t == .value || t == .blockEnd
    let (k, us) ← nodeUnless? handles ends true true ts
    if us.length ≤ ts.length then
      let (v, vs) ← pairValue? handles ends true us
      if vs.length ≤ ts.length then
        let (pairs, rest) ← blockPairs? handles vs
        return ((k, v) :: pairs, rest)
      else none
    else none
  | _ => none
termination_by ts => (ts.length, 0)

/-- The items of a flow sequence up to its end, from the beginning of an item on. An item may be a pair by itself. A
key that is missing there takes up the token behind its mark. -/
def flowItems? (handles : Handles) : List Token → Option (List (Node String) × List Token)
  | .flowSequenceEnd :: ts => some ([], ts)
  | .key :: ts => do
    let ends (t : Token) := t == .flowEntry || t == .flowSequenceEnd
    let (k, us) ←
      if ts.head?.all (fun t => t == .value || ends t) then some (.missing, ts.tail)
      else node? handles false false ts
    if us.length ≤ ts.length then
      let (v, vs) ← pairValue? handles ends false us
      if vs.length ≤ ts.length then
        let (items, rest) ← moreFlowItems? handles vs
        return (.mapping none [(k, v)] :: items, rest)
      else none
    else none
  | ts => do
    let (item, us) ← node? handles false false ts
    if us.length < ts.length then
      let (items, rest) ← moreFlowItems? handles us
      return (item :: items, rest)
    else none
termination_by ts => (ts.length, 5)

/-- The items of a flow sequence up to its end, from the end of an item on. -/
def moreFlowItems? (handles : Handles) : List Token → Option (List (Node String) × List Token)
  | .flowSequenceEnd :: ts => some ([], ts)
  | .flowEntry :: ts => flowItems? handles ts
  | _ => none
termination_by ts => (ts.length, 0)

/-- The pairs of a flow mapping up to its end, from the beginning of a pair on. -/
def flowPairs? (handles : Handles) : List Token → Option (List (Node String × Node String) × List Token)
  | .flowMappingEnd :: ts => some ([], ts)
  | .key :: ts => do
    let ends (t : Token) := t == .flowEntry || t == .flowMappingEnd
    let (k, us) ← nodeUnless? handles (fun t => t == .value || ends t) false false ts
    if us.length ≤ ts.length then
      let (v, vs) ← pairValue? handles ends false us
      if vs.length ≤ ts.length then
        let (pairs, rest) ← moreFlowPairs? handles vs
        return ((k, v) :: pairs, rest)
      else none
    else none
  | ts => do
    let (k, us) ← node? handles false false ts
    if us.length < ts.length then
      let (pairs, rest) ← moreFlowPairs? handles us
      return ((k, .missing) :: pairs, rest)
    else none
termination_by ts => (ts.length, 5)

/-- The pairs of a flow mapping up to its end, from the end of a pair on. -/
def moreFlowPairs? (handles : Handles) : List Token → Option (List (Node String × Node String) × List Token)
  | .flowMappingEnd :: ts => some ([], ts)
  | .flowEntry :: ts => flowPairs? handles ts
  | _ => none
termination_by ts => (ts.length, 0)

end

/-! ### Documents -/

/-- The meanings that directives give to handles; a handle, and the version, must not be given twice. -/
def readDirectives? (versioned : Bool) (handles : Handles) : List Token → Option (Handles × List Token)
  | .directive (.version major minor) :: ts => do
    guard (!versioned ∧ major = 1 ∧ (minor = 1 ∨ minor = 2))
    readDirectives? true handles ts
  | .directive (.handle h a) :: ts => do
    guard ((handles.lookup h).isNone)
    readDirectives? versioned (handles ++ [(h, a)]) ts
  | ts => some (handles, ts)

/-- Whether a token cannot begin the node of a document. -/
def endsDocument : Token → Bool
  | .directive _ | .documentStart | .documentEnd | .streamEnd => true
  | _ => false

/-- The root of the first document, if there is one, and the tokens behind it. -/
def firstRoot? (ts : List Token) : Option (Option (Node String) × List Token) :=
  match ts with
  | [.streamEnd] => some (none, ts)
  | .documentStart :: _ | .directive _ :: _ => do
    let (handles, ts) ← readDirectives? false [] ts
    match ts with
    | .documentStart :: ts =>
      let (n, rest) ← nodeUnless? (handles ++ defaultHandles) endsDocument true false ts
      return (some n, rest)
    | _ => none
  | _ => do
    let (n, rest) ← node? defaultHandles true false ts
    return (some n, rest)

/-- The root of the only document, if there is one. -/
def root? (ts : List Token) : Option (Option (Node String)) := do
  let (n?, rest) ← firstRoot? ts
  guard (rest.dropWhile (· == .documentEnd) = [.streamEnd])
  return n?

end MarketBrief.Yaml
