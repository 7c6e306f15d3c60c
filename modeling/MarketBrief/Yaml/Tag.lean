import MarketBrief.Yaml.Scalar

/-!
# Tags and directives

A tag is a handle and the rest of an address; a directive at a document's beginning gives a handle its meaning. Tags are
ASCII text in which other characters are written as percent-escaped bytes.

* `tagAddress?`, `tagHandle?`: the two parts at a text's beginning;
* `tag?`: a tag in any of its forms;
* `Directive`, `directive?`: a directive behind its percent sign.
-/

namespace MarketBrief.Yaml

/-! ### Addresses -/

/-- A byte, written as a percent sign and two hexadecimal digits, and the text behind it. -/
def percentByte? : List Char → Option (Nat × List Char)
  | '%' :: a :: b :: cs => (hexNumber? [a, b]).map (·, cs)
  | _ => none

/-- The number of bytes behind the first byte of a character in UTF-8. -/
def furtherBytes? (first : Nat) : Option Nat :=
  if first < 0x80 then some 0
  else if first < 0xC0 then none
  else if first < 0xE0 then some 1
  else if first < 0xF0 then some 2
  else if first < 0xF8 then some 3
  else none

/-- The `n` bytes that continue a character, and the text behind them. -/
def continuation? : Nat → List Char → Option (List Nat × List Char)
  | 0, cs => some ([], cs)
  | n + 1, cs => do
    let (b, rest) ← percentByte? cs
    if 0x80 ≤ b ∧ b < 0xC0 then (continuation? n rest).map fun (bs, rest) => (b :: bs, rest) else none

/-- The character that bytes write in UTF-8. Bytes that write none count as the replacement character. -/
def charOfBytes (bytes : List Nat) : Char :=
  let text? := String.fromUTF8? ⟨(bytes.map UInt8.ofNat).toArray⟩
  (text? >>= fun text => text.toList.head?).getD '\ufffd'

/-- The character that percent-escaped bytes at a text's beginning write, and the text behind them. -/
def percentChar? (cs : List Char) : Option (Char × List Char) := do
  let (first, rest) ← percentByte? cs
  let (further, rest) ← continuation? (← furtherBytes? first) rest
  return (charOfBytes (first :: further), rest)

/-- A character that an address may hold as it is; the last three only between angle brackets. -/
def isAddressChar (bracketed : Bool) (c : Char) : Bool :=
  isNameChar c || ";/?:@&=+$.!~*'()".toList.contains c || (bracketed && (c == ',' || c == '[' || c == ']'))

/-- The address at a text's beginning with its escapes undone, and the text behind it. -/
def tagAddress? (bracketed : Bool) : List Char → Option (List Char × List Char)
  | [] => some ([], [])
  | c :: cs =>
    if isAddressChar bracketed c then (tagAddress? bracketed cs).map fun (a, rest) => (c :: a, rest)
    else if c == '%' then
      match percentChar? (c :: cs) with
      | none => none
      | some (x, after) =>
        if after.length ≤ cs.length then (tagAddress? bracketed after).map fun (a, rest) => (x :: a, rest)
        else none
    else some ([], c :: cs)
termination_by cs => cs.length
decreasing_by
  · simp
  · exact Nat.lt_succ_of_le (by assumption)

/-- An address counts up to a NUL character, which only an escape can write. -/
def upToNul (address : List Char) : List Char := address.takeWhile (· ≠ '\x00')

/-- The handle at a text's beginning, which an exclamation mark opens and may close, and the text behind it. -/
def tagHandle? : List Char → Option (List Char × List Char)
  | '!' :: cs =>
    let name := cs.takeWhile isNameChar
    match cs.dropWhile isNameChar with
    | '!' :: rest => some ('!' :: name ++ ['!'], rest)
    | rest => some ('!' :: name, rest)
  | _ => none

/-! ### Tags -/

/-- A handle, empty if the address is complete, and an address. -/
structure Tag where
  handle : String
  address : String
  deriving DecidableEq, Repr

/-- Whether a handle names something, as `!!` and `!e!` do. -/
def isNamedHandle (handle : List Char) : Bool := 1 < handle.length && handle.getLast? == some '!'

/-- The tag at a text's beginning, and the text behind it. -/
def tagText? (cs : List Char) : Option (List Char × List Char × List Char) :=
  if cs.take 2 = ['!', '<'] then do
    let (address, rest) ← tagAddress? true (cs.drop 2)
    guard (address ≠ [] ∧ rest.head? = some '>')
    return ([], upToNul address, rest.tail)
  else do
    let (handle, rest) ← tagHandle? cs
    let (address, rest) ← tagAddress? false rest
    if isNamedHandle handle then
      guard (address ≠ [])
      return (handle, upToNul address, rest)
    else
      match upToNul (handle.tail ++ address) with
      | [] => return ([], ['!'], rest)
      | address => return (['!'], address, rest)

/-- The tag at a place, and the place behind it. A gap must follow, or inside a flow collection a comma. -/
def tag? (inFlow : Bool) (c : Cursor) : Option (Tag × Cursor) := do
  let (handle, address, rest) ← tagText? c.rest
  guard (atGap rest || (inFlow && rest.head? == some ','))
  return (⟨String.ofList handle, String.ofList address⟩, c.skip (c.rest.length - rest.length))

/-! ### Directives -/

/-- What a directive states: the version of the format, or the meaning of a handle. -/
inductive Directive where
  | version (major minor : Nat)
  | handle (handle address : String)
  deriving DecidableEq, Repr

/-- A number of at most nine digits, and the text behind it. -/
def versionNumber? (cs : List Char) : Option (Nat × List Char) :=
  let digits := cs.takeWhile Char.isDigit
  if digits = [] ∨ 9 < digits.length then none
  else some (digits.foldl (fun n c => 10 * n + (c.toNat - 48)) 0, cs.dropWhile Char.isDigit)

/-- The text without spaces and tabs at its beginning. -/
def dropSpacing (cs : List Char) : List Char := cs.dropWhile isSpacing

def version? (cs : List Char) : Option (Directive × List Char) := do
  let (major, rest) ← versionNumber? (dropSpacing cs)
  guard (rest.head? = some '.')
  let (minor, rest) ← versionNumber? rest.tail
  return (.version major minor, rest)

/-- The meaning of a handle, and the text behind it. -/
def handleMeaning? (cs : List Char) : Option (Directive × List Char) := do
  let (handle, rest) ← tagHandle? (dropSpacing cs)
  guard (handle.getLast? = some '!')
  guard (rest.head?.any isSpacing)
  let (address, rest) ← tagAddress? true (dropSpacing rest)
  guard (address ≠ [] ∧ atGap rest)
  return (.handle (String.ofList handle) (String.ofList (upToNul address)), rest)

/-- The directive at a place, whose percent sign is ahead, and the place behind its line. -/
def directive? (c : Cursor) : Option (Directive × Cursor) := do
  let cs := c.rest.drop 1
  let name := cs.takeWhile isNameChar
  let rest := cs.dropWhile isNameChar
  guard (atGap rest)
  let (d, rest) ←
    if name = "YAML".toList then version? rest
    else if name = "TAG".toList then handleMeaning? rest
    else none
  let rest := dropSpacing rest
  let rest := if rest.head? = some '#' then rest.dropWhile (!isBreak ·) else rest
  guard (atLineEnd rest)
  return (d, (c.skip (c.rest.length - rest.length)).next)

end MarketBrief.Yaml
