import MarketBrief.Yaml.Tag

/-!
# YAML tokens

Part of the tokens are not written: indentation opens and closes block collections, and what turns out to be a key when
the colon behind it is found was one from its beginning. While the text is read, the places where such a key may have
begun are remembered, one for each open flow collection and one for the blocks around them.

* `Token`: the tokens;
* `Layout`: what is remembered between tokens, with the operations on it;
* `Layout.read?`: the effect of one token;
* `Token.scan`: all tokens of a text.
-/

namespace MarketBrief.Yaml

/-- A token of YAML text. -/
inductive Token where
  | directive (d : Directive)
  | documentStart | documentEnd | streamEnd
  | blockSequenceStart | blockMappingStart | blockEnd
  | flowSequenceStart | flowSequenceEnd | flowMappingStart | flowMappingEnd
  | blockEntry | flowEntry | key | value
  | alias (name : String)
  | anchor (name : String)
  | tag (t : Tag)
  | scalar (plain : Bool) (text : String)
  deriving DecidableEq, Repr

/-- A place where a key may have begun. -/
structure PossibleKey where
  /-- Whether nothing but a key may stand there. -/
  required : Bool
  /-- The number of tokens before it. -/
  tokensBefore : Nat
  index : Nat
  line : Nat
  column : Nat

/-- What is remembered between tokens. -/
structure Layout where
  /-- The place that has been reached. -/
  cursor : Cursor
  /-- The tokens so far, the last one first. -/
  tokens : List Token := []
  /-- The columns of the open block collections, the innermost first. -/
  indents : List Nat := []
  /-- Where a key of the innermost collection may have begun. -/
  key? : Option PossibleKey := none
  /-- The same for the collections around the open flow collections, the innermost first. -/
  outerKeys : List (Option PossibleKey) := []
  /-- Whether a key may begin at the place ahead. -/
  keyAllowed : Bool := true

namespace Layout

def inFlow (s : Layout) : Bool := !s.outerKeys.isEmpty

/-- The column behind the innermost block collection's. -/
def innerColumn (s : Layout) : Nat := s.indents.head?.elim 0 (· + 1)

def push (s : Layout) (t : Token) : Layout := { s with tokens := t :: s.tokens }

/-- A token behind the first `n` tokens. -/
def insert (s : Layout) (n : Nat) (t : Token) : Layout :=
  let later := s.tokens.length - n
  { s with tokens := s.tokens.take later ++ t :: s.tokens.drop later }

/-- The place moved on by `n` characters. -/
def skip (s : Layout) (n : Nat) : Layout := { s with cursor := s.cursor.skip n }

/-! ### Keys -/

/-- A possible key is no key after all, which is an error if it was required. -/
def dropKey? (s : Layout) : Option Layout :=
  if s.key?.any (·.required) then none else some { s with key? := none }

/-- A key may begin at the place ahead, if keys are allowed there. -/
def markKey? (s : Layout) : Option Layout :=
  if s.keyAllowed then do
    let s ← s.dropKey?
    let c := s.cursor
    return { s with key? := some {
      required := !s.inFlow && s.indents.head? == some c.column
      tokensBefore := s.tokens.length, index := c.index, line := c.line, column := c.column } }
  else some s

/-- Whether a possible key can be none any more: a key must end on its line and within 1024
bytes. -/
def isStale (c : Cursor) (k : PossibleKey) : Bool := k.line < c.line || k.index + 1024 < c.index

/-- The possible keys without the stale ones, none of which may be required. -/
def dropStaleKeys? (s : Layout) : Option Layout :=
  let stale (k? : Option PossibleKey) : Bool := k?.any (isStale s.cursor)
  if (s.key? :: s.outerKeys).any fun k? => stale k? && k?.any (·.required) then none
  else
    let keep (k? : Option PossibleKey) : Option PossibleKey := if stale k? then none else k?
    some { s with key? := keep s.key?, outerKeys := s.outerKeys.map keep }

/-! ### Indentation -/

/-- A block collection opens at a column right of the innermost one; its token `t` comes behind the first `n`
tokens. -/
def openBlock (s : Layout) (column n : Nat) (t : Token) : Layout :=
  if !s.inFlow && s.indents.head?.all (· < column) then
    { s.insert n t with indents := column :: s.indents }
  else s

/-- The block collections right of a column end, or all of them if there is no column. -/
def closeBlocks (s : Layout) (column? : Option Nat) : Layout :=
  if s.inFlow then s
  else
    let ends (indent : Nat) : Bool := column?.all (· < indent)
    { s with
      tokens := List.replicate (s.indents.takeWhile ends).length .blockEnd ++ s.tokens
      indents := s.indents.dropWhile ends }

/-! ### Gaps -/

/-- The place behind the gap ahead, with its comments. Tabs belong to it inside flow collections, and in blocks where no
key may begin; a byte order mark does on a line's beginning. In blocks a key may begin on each new line. -/
def skipGap (s : Layout) : Layout :=
  let tabs := s.inFlow || !s.keyAllowed
  let c := (s.cursor.skipMark.span fun x => x == ' ' || (tabs && x == '\t')).2
  let c := if c.peek? == some '#' then (c.span (!isBreak ·)).2 else c
  if c.peek?.any isBreak ∧ c.next.rest.length < s.cursor.rest.length then
    skipGap { s with cursor := c.next, keyAllowed := s.keyAllowed || !s.inFlow }
  else { s with cursor := c }
termination_by s.cursor.rest.length
decreasing_by
  rename_i h
  exact h.2

/-! ### Tokens -/

/-- A directive or a mark between documents ends all blocks. -/
def atDocumentLevel? (s : Layout) : Option Layout := do
  let s ← (s.closeBlocks none).dropKey?
  return { s with keyAllowed := false }

def readDirective? (s : Layout) : Option Layout := do
  let s ← s.atDocumentLevel?
  let (d, c) ← directive? s.cursor
  return { s.push (.directive d) with cursor := c }

def readDocumentMark? (s : Layout) (t : Token) : Option Layout := do
  let s ← s.atDocumentLevel?
  return (s.push t).skip 3

/-- The effect of a mark that opens a flow collection. -/
def openFlow? (s : Layout) (t : Token) : Option Layout := do
  let s ← s.markKey?
  return { (s.push t).skip 1 with key? := none, outerKeys := s.key? :: s.outerKeys, keyAllowed := true }

/-- The effect of a mark that closes a flow collection. -/
def closeFlow? (s : Layout) (t : Token) : Option Layout := do
  let s ← s.dropKey?
  let s := { s with key? := s.outerKeys.head?.getD none, outerKeys := s.outerKeys.tail, keyAllowed := false }
  return (s.push t).skip 1

/-- The effect of a comma in a flow collection. -/
def readFlowEntry? (s : Layout) : Option Layout := do
  let s ← s.dropKey?
  return { (s.push .flowEntry).skip 1 with keyAllowed := true }

/-- The effect of a hyphen before an item. -/
def readBlockEntry? (s : Layout) : Option Layout := do
  guard (s.inFlow || s.keyAllowed)
  let s ← (s.openBlock s.cursor.column s.tokens.length .blockSequenceStart).dropKey?
  return { (s.push .blockEntry).skip 1 with keyAllowed := true }

/-- The effect of a question mark before a key. -/
def readKey? (s : Layout) : Option Layout := do
  guard (s.inFlow || s.keyAllowed)
  let s ← (s.openBlock s.cursor.column s.tokens.length .blockMappingStart).dropKey?
  return { (s.push .key).skip 1 with keyAllowed := !s.inFlow }

/-- The effect of a colon before a value. What may have begun a key has begun one. -/
def readValue? (s : Layout) : Option Layout :=
  match s.key? with
  | some k =>
    let s := (s.insert k.tokensBefore .key).openBlock k.column k.tokensBefore .blockMappingStart
    some { (s.push .value).skip 1 with key? := none, keyAllowed := false }
  | none => do
    guard (s.inFlow || s.keyAllowed)
    let s := s.openBlock s.cursor.column s.tokens.length .blockMappingStart
    return { (s.push .value).skip 1 with keyAllowed := !s.inFlow }

/-- The effect of a name behind an ampersand or an asterisk. -/
def readName? (s : Layout) (token : String → Token) : Option Layout := do
  let s ← s.markKey?
  let (name, c) := s.cursor.next.span isNameChar
  guard (name ≠ [] ∧ (atGap c.rest ∨ "?:,]\x7d%@`".toList.contains (c.rest.headD ' ')))
  return { s.push (token (String.ofList name)) with cursor := c, keyAllowed := false }

def readTag? (s : Layout) : Option Layout := do
  let s ← s.markKey?
  let (t, c) ← tag? s.inFlow s.cursor
  return { s.push (.tag t) with cursor := c, keyAllowed := false }

def readBlock? (s : Layout) (literal : Bool) : Option Layout := do
  let s ← s.dropKey?
  let (text, c) ← blockScalar? literal s.indents.head? s.cursor
  return { s.push (.scalar false (String.ofList text)) with cursor := c, keyAllowed := true }

def readQuoted? (s : Layout) (double : Bool) : Option Layout := do
  let s ← s.markKey?
  let (text, c) ← quotedScalar? double s.cursor
  return { s.push (.scalar false (String.ofList text)) with cursor := c, keyAllowed := false }

def readPlain? (s : Layout) : Option Layout := do
  let s ← s.markKey?
  let p ← plainScalar? s.inFlow s.innerColumn s.cursor
  return { s.push (.scalar true (String.ofList p.text)) with cursor := p.cursor, keyAllowed := p.endsLine }

/-- Whether a plain scalar begins with a character, of which `after` is the text behind: it must be no indicator, or an
indicator that means nothing there. -/
def opensPlain (inFlow : Bool) (c : Char) (after : List Char) : Bool :=
  !(isGapChar c || "-?:,[]\x7b\x7d#&*!|>'\"%@`".toList.contains c)
    || (c == '-' && !after.head?.any isSpacing)
    || (!inFlow && (c == '?' || c == ':') && !atGap after)

/-- The effect of the token ahead, which begins with the character `c`. -/
def read? (s : Layout) (c : Char) (after : List Char) : Option Layout :=
  if s.cursor.column = 0 ∧ c = '%' then s.readDirective?
  else if s.cursor.atDocumentMark then s.readDocumentMark? (if c = '-' then .documentStart else .documentEnd)
  else if c = '[' then s.openFlow? .flowSequenceStart
  else if c = '\x7b' then s.openFlow? .flowMappingStart
  else if c = ']' then s.closeFlow? .flowSequenceEnd
  else if c = '\x7d' then s.closeFlow? .flowMappingEnd
  else if c = ',' then s.readFlowEntry?
  else if c = '-' ∧ atGap after then s.readBlockEntry?
  else if c = '?' ∧ (s.inFlow ∨ atGap after) then s.readKey?
  else if c = ':' ∧ (s.inFlow ∨ atGap after) then s.readValue?
  else if c = '*' then s.readName? .alias
  else if c = '&' then s.readName? .anchor
  else if c = '!' then s.readTag?
  else if c = '|' ∧ !s.inFlow then s.readBlock? true
  else if c = '>' ∧ !s.inFlow then s.readBlock? false
  else if c = '\'' then s.readQuoted? false
  else if c = '"' then s.readQuoted? true
  else if opensPlain s.inFlow c after then s.readPlain?
  else none

/-- The end of the text ends all blocks. -/
def finish? (s : Layout) : Option (List Token) := do
  let s ← (s.closeBlocks none).dropKey?
  return (s.push .streamEnd).tokens.reverse

/-- The tokens of the text up to its end. -/
def tokens? (s : Layout) : Option (List Token) := do
  let t ← s.skipGap.dropStaleKeys?
  let t := t.closeBlocks (some t.cursor.column)
  match t.cursor.rest with
  | [] => t.finish?
  | c :: after =>
    let t ← t.read? c after
    if t.cursor.rest.length < s.cursor.rest.length then t.tokens? else none
termination_by s.cursor.rest.length

end Layout

/-- The tokens of a text, if it is made of tokens. -/
def Token.scan? (text : String) : Option (List Token) := do
  let c ← Cursor.ofText? text.toList
  Layout.tokens? { cursor := c }

end MarketBrief.Yaml
