import MarketBrief.Settings.Pattern.Atom

/-!
# Classes in brackets

A class in brackets holds characters, ranges, classes known by letters or names, and further classes in brackets; marks
that are written twice combine what stands before and behind them.

* `nested`: how deep parts are nested that stand side by side;
* `Bracket`: a class that is being read;
* `bracketFrom?`: the rest of a class, and the text behind it.
-/

namespace MarketBrief.Settings.Pattern

open Unicode

/-- How deep parts of known depths are nested that stand side by side: two or more are one level deeper. -/
def nested : List Nat → Nat
  | [] => 0
  | [d] => d
  | d :: ds => ds.foldl max d + 1

/-! ### Items -/

/-- Whether an atom may stand in a class. Where ASCII alone counts, all characters of the class are ASCII. -/
def Atom.isItem (m : Mode) : Atom → Bool
  | .literal c _ => m.allScripts || c.toNat < 128
  | .letterClass ascii => m.allScripts || ascii
  | .category => m.allScripts
  | .textEdge | .wordEdge => false

/-- The atom at a place in a class, and the text behind it. -/
def item? (m : Mode) : List Char → Option (Atom × List Char)
  | [] => none
  | '\\' :: cs => escape? m cs
  | c :: cs => some (.literal c false, cs)

/-- The character behind the blanks at a text's beginning. A hash counts as one of them, and the character at the
beginning is taken if there are but blanks. -/
def behindSpace? (m : Mode) (cs : List Char) : Option Char :=
  if m.spaced then
    match cs.dropWhile isBlank with
    | '#' :: rest => (rest.dropWhile isBlank).head?.or cs.head?
    | rest => rest.head?.or cs.head?
  else cs.head?

/-- Whether a hyphen before this text stands for itself and not for a range. -/
def isLoneHyphen (m : Mode) (after : List Char) : Bool :=
  behindSpace? m after == some ']' || behindSpace? m after == some '-'

/-- The text behind the atom or range at a place in a class. A range must not be empty. -/
def afterRange? (m : Mode) (cs : List Char) : Option (List Char) := do
  let (first, rest) ← item? m cs
  match skipSpace m rest with
  | '-' :: after =>
    if isLoneHyphen m after then
      if first.isItem m then return '-' :: after else none
    else
      let (last, rest) ← item? m (skipSpace m after)
      match first, last with
      | .literal a _, .literal b _ => if a ≤ b && first.isItem m && last.isItem m then return rest else none
      | _, _ => none
  | rest => if first.isItem m then return rest else none

def classNames : List String :=
  ["alnum", "alpha", "ascii", "blank", "cntrl", "digit", "graph", "lower", "print", "punct", "space", "upper", "word",
   "xdigit"]

/-- Whether a class with a name, whose bracket has been read, is negated, and the text behind it. -/
def namedClass? : List Char → Option (Bool × List Char)
  | ':' :: cs =>
    let negated := cs.head? == some '^'
    let cs := if negated then cs.tail else cs
    match cs.dropWhile (· ≠ ':') with
    | ':' :: ']' :: rest =>
      if classNames.contains (String.ofList (cs.takeWhile (· ≠ ':'))) then some (negated, rest) else none
    | _ => none
  | _ => none

/-! ### Classes -/

/-- Which characters have a meaning of their own at the beginning of a class. -/
inductive Opening where
  /-- All of them: a circumflex, hyphens and a closing bracket. -/
  | first
  /-- Hyphens and a closing bracket, behind the circumflex and other hyphens. -/
  | leading
  /-- None any more. -/
  | over
  deriving DecidableEq

/-- A class in brackets that is being read, without the classes around it. -/
structure Bracket where
  opening : Opening := .first
  /-- The depth of what stands before the last mark that combines. -/
  before? : Option Nat := none
  /-- The depths of the items behind it. -/
  items : List Nat := []

def Bracket.add (b : Bracket) (depth : Nat) : Bracket := { b with opening := .over, items := depth :: b.items }

def Bracket.depth (b : Bracket) : Nat := b.before?.elim (nested b.items) fun d => max d (nested b.items) + 1

/-- The effect of the character ahead on a class and those around it: either the class is over, with the depth given, or
it goes on; and the text behind. -/
def bracketStep? (m : Mode) (b : Bracket) (outer : List Bracket) (c : Char) (cs : List Char) :
    Option ((Nat ⊕ Bracket × List Bracket) × List Char) :=
  if b.opening = .first ∧ c = '^' then
    if m.allScripts then some (.inr ({ b with opening := .leading }, outer), cs) else none
  else if b.opening ≠ .over ∧ c = '-' then some (.inr ({ b.add 0 with opening := .leading }, outer), cs)
  else if b.opening ≠ .over ∧ c = ']' ∧ b.items = [] then some (.inr (b.add 0, outer), cs)
  else if c = '[' then
    match namedClass? cs with
    | some (negated, rest) => if m.allScripts || !negated then some (.inr (b.add 0, outer), rest) else none
    | none => some (.inr ({}, { b with opening := .over } :: outer), cs)
  else if c = ']' then
    match outer with
    | [] => some (.inl (b.depth + 1), cs)
    | around :: outer => some (.inr (around.add (b.depth + 1), outer), cs)
  else if (c = '&' ∨ c = '-' ∨ c = '~') ∧ cs.head? = some c then
    some (.inr ({ opening := .over, before? := some b.depth }, outer), cs.tail)
  else (afterRange? m (c :: cs)).map fun rest => (.inr (b.add 0, outer), rest)

/-- The depth of the outermost of some classes, given what has been read of them, and the text behind it. -/
def bracketFrom? (m : Mode) (b : Bracket) (outer : List Bracket) (cs : List Char) : Option (Nat × List Char) :=
  match skipSpace m cs with
  | [] => none
  | c :: rest =>
    match bracketStep? m b outer c rest with
    | none => none
    | some (.inl depth, rest) => some (depth, rest)
    | some (.inr (b, outer), rest) => if rest.length < cs.length then bracketFrom? m b outer rest else none
termination_by cs.length

end MarketBrief.Settings.Pattern
