import MarketBrief.Settings.Pattern.Bracket
import MarketBrief.Unicode.Alphabetic

/-!
# The grammar of patterns

A pattern is a choice between alternatives, each a row of atoms, classes, groups and repetitions of these. A repetition
by a count cannot be written, since braces end a field of a filter.

* `Group`: a group that is being read, and `Reading` with the groups around it;
* `Reading.step?`: the effect of what stands ahead;
* `check`: whether a text is a pattern that can be matched.
-/

namespace MarketBrief.Settings.Pattern

open Unicode

/-- Why a text is no pattern that can be matched. -/
inductive Fault where
  /-- It breaks the grammar. -/
  | malformed
  /-- It asks for an edge of words of all scripts, which takes more than the next byte to see. -/
  | wordEdge
  deriving DecidableEq, Repr

/-! ### Groups -/

/-- A part of an alternative. -/
structure Part where
  /-- How deep it is nested. -/
  depth : Nat := 0
  /-- Whether it can be repeated, as all parts but flags can. -/
  isRepeatable : Bool := true

/-- A group that is being read, or the whole pattern. -/
structure Group where
  /-- The depths of the alternatives that are over. -/
  alternatives : List Nat := []
  /-- The parts of the last one, the last part first. -/
  parts : List Part := []
  mode : Mode := {}

/-- How deep an alternative is nested, given its parts. -/
def alternativeDepth (parts : List Part) : Nat := nested (parts.map Part.depth)

def Group.depth (g : Group) : Nat :=
  if g.alternatives = [] then alternativeDepth g.parts else nested (alternativeDepth g.parts :: g.alternatives)

def Group.add (g : Group) (p : Part) : Group := { g with parts := p :: g.parts }

/-- A pattern that is being read. -/
structure Reading where
  group : Group := {}
  /-- The open groups around it, the innermost first. -/
  outer : List Group := []
  /-- The names of groups. -/
  names : List (List Char) := []
  /-- Whether an edge of words of all scripts has been asked for. -/
  wordEdge : Bool := false

def Reading.add (r : Reading) (p : Part) : Reading := { r with group := r.group.add p }

/-- The reading inside a new group with the mode `m`. -/
def Reading.enter (r : Reading) (m : Mode) : Reading := { r with group := { mode := m }, outer := r.group :: r.outer }

/-! ### Beginnings of groups -/

/-- The flags behind a question mark, `read` of which have been read, reversed; whether a group begins behind them; and
the text behind. A hyphen turns off the flags behind it, of which there must be one; nothing is written twice. -/
def flags? (read : List Char) : List Char → Option (List Char × Bool × List Char)
  | [] => none
  | c :: cs =>
    if c = ')' ∨ c = ':' then if read.head? = some '-' then none else some (read.reverse, c == ':', cs)
    else if "imsUuRx-".toList.contains c && !read.contains c then flags? (c :: read) cs
    else none

/-- Whether flags turn one of them on or off. -/
def flag? (flags : List Char) (f : Char) : Option Bool :=
  if flags.contains f then some (!(flags.takeWhile (· ≠ f)).contains '-') else none

def Mode.under (m : Mode) (flags : List Char) : Mode :=
  { spaced := (flag? flags 'x').getD m.spaced, allScripts := (flag? flags 'u').getD m.allScripts }

def isGroupName : List Char → Bool
  | [] => false
  | c :: cs => (c == '_' || isAlphabetic c) && cs.all fun d => "_.[]".toList.contains d || isAlphanumeric d

/-- The effect of a name up to its angle bracket, with which a group begins. No two groups have the same name. -/
def Reading.enterNamed? (r : Reading) (cs : List Char) : Option (Reading × List Char) :=
  let name := cs.takeWhile (· ≠ '>')
  match cs.dropWhile (· ≠ '>') with
  | [] => none
  | _ :: rest =>
    if isGroupName name && !r.names.contains name then
      some ({ r.enter r.group.mode with names := name :: r.names }, rest)
    else none

/-- The effect of flags, with which a group may begin. -/
def Reading.readFlags? (r : Reading) (cs : List Char) : Option (Reading × List Char) := do
  let (flags, entered, rest) ← flags? [] cs
  let mode := r.group.mode.under flags
  if entered then return (r.enter mode, rest)
  else if flags = [] then none
  else return ({ r with group := { r.group.add { isRepeatable := false } with mode } }, rest)

/-- The effect of an opening parenthesis before this text. -/
def Reading.openGroup? (r : Reading) (cs : List Char) : Option (Reading × List Char) :=
  match skipSpace r.group.mode cs with
  | '?' :: 'P' :: '<' :: rest => r.enterNamed? rest
  | '?' :: '<' :: rest => r.enterNamed? rest
  | '?' :: rest => r.readFlags? rest
  | rest => some (r.enter r.group.mode, rest)

/-! ### Patterns -/

def Reading.close? (r : Reading) : Option Reading :=
  match r.outer with
  | [] => none
  | around :: outer => some { r with group := around.add { depth := r.group.depth + 1 }, outer }

def Reading.alternate (r : Reading) : Reading :=
  let g := r.group
  { r with group := { g with alternatives := alternativeDepth g.parts :: g.alternatives, parts := [] } }

/-- The effect of a mark that repeats the last part. -/
def Reading.repeatLast? (r : Reading) : Option Reading :=
  match r.group.parts with
  | [] => none
  | p :: ps =>
    if p.isRepeatable then some { r with group := { r.group with parts := { depth := p.depth + 1 } :: ps } } else none

def Reading.addAtom? (r : Reading) (a : Atom) : Option Reading :=
  let m := r.group.mode
  if a.isSound m then some { r.add {} with wordEdge := r.wordEdge || (a == .wordEdge && m.allScripts) } else none

/-- The effect of the character ahead and what belongs to it, and the text behind. -/
def Reading.step? (r : Reading) (c : Char) (cs : List Char) : Option (Reading × List Char) :=
  if c = '(' then r.openGroup? cs
  else if c = ')' then r.close?.map (·, cs)
  else if c = '|' then some (r.alternate, cs)
  else if c = '[' then (bracketFrom? r.group.mode {} [] cs).map fun (depth, rest) => (r.add { depth }, rest)
  else if c = '?' ∨ c = '*' ∨ c = '+' then r.repeatLast?.map (·, if cs.head? = some '?' then cs.tail else cs)
  else if c = '\x7b' then none
  else if c = '\\' then do
    let (a, rest) ← escape? r.group.mode cs
    return (← r.addAtom? a, rest)
  else if c = '.' then (r.addAtom? (.letterClass false)).map (·, cs)
  else some (r.add {}, cs)

def Reading.finish? (r : Reading) (cs : List Char) : Option Reading :=
  match skipSpace r.group.mode cs with
  | [] => some r
  | c :: rest =>
    match r.step? c rest with
    | none => none
    | some (r, rest) => if rest.length < cs.length then r.finish? rest else none
termination_by cs.length

/-- The greatest depth of a pattern. -/
def depthLimit : Nat := 250

/-- Whether a text is a pattern that can be matched. All its groups are closed. -/
def check (cs : List Char) : Except Fault Unit :=
  match ({} : Reading).finish? cs with
  | none => .error .malformed
  | some r =>
    if r.outer.isEmpty && r.group.depth ≤ depthLimit then
      if r.wordEdge then .error .wordEdge else .ok ()
    else .error .malformed

end MarketBrief.Settings.Pattern
