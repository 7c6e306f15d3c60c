import MarketBrief.Number.Decimal
import MarketBrief.Number.Natural
import MarketBrief.Settings.Basic
import MarketBrief.Settings.Pattern.Grammar
import MarketBrief.Text.Basic

/-!
# Log filters

What is logged is a list of directives between commas: a level, a target, or a target with a level behind an equals
sign. A target may be followed, or stood in for, by a span in brackets with a field in braces. Blanks around a directive
are passed over to find its parts; the parts then are taken from the same places of the directive with its blanks, where
a place is a number of bytes.

* `isLevel`: the names and numbers of levels;
* `cut?`: the text between two places;
* `Place.next`: the effect of one more character of a directive;
* `check`: the first fault of a filter;
* `checkIn`: the fault of the filter of a run, which an environment may give before its settings do.
-/

namespace MarketBrief.Settings.LogFilter

open Text Unicode

/-- Why a text is no filter. -/
inductive Fault where
  | badDirective
  | badLevel
  | badField (fault : Pattern.Fault)
  /-- A part of a directive begins or ends inside a character. -/
  | splitCharacter
  deriving DecidableEq, Repr

def patternMessage : Pattern.Fault → String
  | .malformed => "error building NFA"
  | .wordEdge =>
    "unsupported regex feature for DFAs: cannot build DFAs for regexes with Unicode word boundaries; switch to ASCII "
      ++ "word boundaries, or heuristically enable Unicode word boundaries or use a different regex engine"

def Fault.message : Fault → String
  | .badDirective => "invalid filter directive"
  | .badLevel =>
    "error parsing level filter: expected one of \"off\", \"error\", \"warn\", \"info\", \"debug\", "
      ++ "\"trace\", or a number 0-5"
  | .badField fault => "invalid field filter: " ++ patternMessage fault
  | .splitCharacter => "a part of a filter directive is cut inside a character"

/-- The names of the levels, from the most silent one. -/
def levelNames : List String := ["off", "error", "warn", "info", "debug", "trace"]

/-- Whether a text is a level: nothing, a name in any case, or a number. -/
def isLevel (cs : List Char) : Bool :=
  cs.isEmpty || levelNames.contains (String.ofList (cs.map Char.toLower)) ||
    match Number.readNatural cs with
    | .ok n => n < levelNames.length
    | .error _ => false

/-! ### Parts -/

/-- The text in front of a place and the text behind it, unless the place is inside a character. -/
def splitAt? : Nat → List Char → Option (List Char × List Char)
  | 0, cs => some ([], cs)
  | _ + 1, [] => none
  | n + 1, c :: cs =>
    if c.utf8Size ≤ n + 1 then (splitAt? (n + 1 - c.utf8Size) cs).map fun (before, after) => (c :: before, after)
    else none

/-- The text between two places. -/
def cut? (first last : Nat) (cs : List Char) : Except Fault (List Char) :=
  match splitAt? last cs >>= fun (before, _) => splitAt? first before with
  | some (_, part) => .ok part
  | none => .error .splitCharacter

/-- The text behind a place. -/
def cutFrom? (first : Nat) (cs : List Char) : Except Fault (List Char) :=
  match splitAt? first cs with
  | some (_, part) => .ok part
  | none => .error .splitCharacter

/-- The fault of a field, if it has one. It is a name, or a name and behind an equals sign a number or pattern, which
ends at the next equals sign. -/
def checkField (field : List Char) : Except Fault Unit :=
  if field = [] then .error .badDirective
  else match field.splitOn '=' with
    | _ :: value :: _ =>
      if (Number.readDecimal value).toBool then .ok () else (Pattern.check value).mapError .badField
    | _ => .ok ()

/-! ### Directives -/

/-- What a directive holds at a place; parts are known by the place of their beginning. -/
inductive Place where
  /-- Nothing yet. -/
  | start
  /-- A target, which may still be a level. -/
  | target
  /-- The name of a span. -/
  | span (first : Nat)
  /-- A field. -/
  | field (first : Nat)
  /-- The end of a field. -/
  | fields
  /-- The end of a span. -/
  | closed
  /-- A level. -/
  | level (first : Nat)
  deriving DecidableEq

def beginsTarget (c : Char) : Bool := c == '-' || c == ':' || c == '_' || isAlphanumeric c

/-- The effect of the character `c` at the place `n` of a directive. -/
def Place.next (directive : List Char) (n : Nat) : Place → Char → Except Fault Place
  | .start, c =>
    if c = '[' then .ok (.span (n + 1)) else if beginsTarget c then .ok .target else .error .badDirective
  | .target, c =>
    if c = '=' then (cut? 0 n directive).map fun _ => .level (n + 1)
    else if c = '[' then (cut? 0 n directive).map fun _ => .span (n + 1)
    else .ok .target
  | .span first, c =>
    if c = ']' then (cut? first n directive).map fun _ => .closed
    else if c = '\x7b' then (cut? first n directive).map fun _ => .field (n + 1)
    else .ok (.span first)
  | .field first, c =>
    if c = '\x7d' then do
      checkField (← cut? first n directive)
      return .fields
    else .ok (.field first)
  | .fields, c => if c = ']' then .ok .closed else .error .badDirective
  | .closed, c => if c = '=' then .ok (.level (n + 1)) else .error .badDirective
  | .level first, _ => .ok (.level first)

/-- What a directive holds at the end of some text, which begins at the place `n`. -/
def Place.after (directive : List Char) (n : Nat) (p : Place) : List Char → Except Fault Place
  | [] => .ok p
  | c :: cs => do (← p.next directive n c).after directive (n + c.utf8Size) cs

def checkDirective (directive : List Char) : Except Fault Unit := do
  match ← Place.start.after directive 0 (trim directive) with
  | .target | .closed => return ()
  | .level first => if isLevel (← cutFrom? first directive) then return () else throw .badLevel
  | .start | .span _ | .field _ | .fields => throw .badDirective

/-- The first fault of a filter. Empty directives are passed over. -/
def check (filter : String) : Except Fault Unit :=
  ((filter.toList.splitOn ',').filter (!·.isEmpty)).forM checkDirective

/-! ### The filter of a run -/

/-- The variable whose filter counts before the level of the settings. -/
def filterVariable : String := "RUST_LOG"

/-- The fault of the filter of a run. A variable that is not set to text, or to no filter, is passed over, and the level
of the settings counts; but a cut inside a character breaks off. -/
def checkIn (e : Environment) (level : String) : Except Fault Unit :=
  match (e.get? filterVariable).map check with
  | some (.ok ()) => .ok ()
  | some (.error .splitCharacter) => .error .splitCharacter
  | some (.error _) | none => check level

end MarketBrief.Settings.LogFilter
