import MarketBrief.Number.Decimal

/-!
# Options of a command line

An option is written `--name value` or `--name=value`, and a flag `--name`. No option may be given twice.

* `UsageError`: why arguments are not understood;
* `Given.read`: the options at the beginning of some arguments, and the arguments behind them;
* `Given.path?`, `Given.natural?`, `Given.decimal?`: the value of an option as what it stands for.
-/

namespace MarketBrief.Command

open Number

/-- Why arguments are not understood. -/
inductive UsageError where
  | missingCommand
  | unexpected (argument : String)
  | repeated (option : String)
  | missingValue (option : String)
  | badValue (option : String)
  | missingOption (option : String)
  | excluded (option : String)
  deriving DecidableEq, Repr

def UsageError.message : UsageError → String
  | .missingCommand => "a command is required"
  | .unexpected argument => "unexpected argument '" ++ argument ++ "'"
  | .repeated option => "option '--" ++ option ++ "' is given twice"
  | .missingValue option => "option '--" ++ option ++ "' needs a value"
  | .badValue option => "invalid value for option '--" ++ option ++ "'"
  | .missingOption option => "option '--" ++ option ++ "' is required"
  | .excluded option => "option '--" ++ option ++ "' cannot be used here"

/-- The options and flags that may be given at a place. -/
structure Accepted where
  options : List String
  flags : List String := []

/-- The options that are given, each with its value; a flag has an empty one. -/
abbrev Given := List (String × String)

/-- The text of an option behind its two dashes, cut at the first equals sign. -/
def splitOption? : List Char → Option (String × Option String)
  | '-' :: '-' :: c :: cs =>
    let name := String.ofList ((c :: cs).takeWhile (· ≠ '='))
    match (c :: cs).dropWhile (· ≠ '=') with
    | [] => some (name, none)
    | _ :: value => some (name, some (String.ofList value))
  | _ => none

/-- Whether an argument can be the value of the option before it: a dash stands alone or not at all at its beginning. -/
def isValue (argument : String) : Bool := argument = "-" || argument.toList.head? ≠ some '-'

namespace Given

/-- The options at the beginning of some arguments, with those given before, and the arguments behind them. -/
def read (accepted : Accepted) (given : Given) : List String → Except UsageError (Given × List String)
  | [] => .ok (given, [])
  | argument :: arguments =>
    match splitOption? argument.toList with
    | none => .ok (given, argument :: arguments)
    | some (name, value?) =>
      if (given.lookup name).isSome then .error (.repeated name)
      else if name ∈ accepted.flags then
        match value? with
        | none => read accepted (given ++ [(name, "")]) arguments
        | some _ => .error (.badValue name)
      else if name ∈ accepted.options then
        match value?, arguments with
        | some value, arguments => read accepted (given ++ [(name, value)]) arguments
        | none, [] => .error (.missingValue name)
        | none, value :: arguments =>
          if isValue value then read accepted (given ++ [(name, value)]) arguments
          else .error (.missingValue name)
      else .error (.unexpected argument)

def has (given : Given) (name : String) : Bool := (given.lookup name).isSome

def value? {α : Type} (given : Given) (name : String) (read? : String → Option α) : Except UsageError (Option α) :=
  match given.lookup name with
  | none => .ok none
  | some value =>
    match read? value with
    | none => .error (.badValue name)
    | some a => .ok (some a)

/-- The path that an option gives. It is not empty. -/
def path? (given : Given) (name : String) : Except UsageError (Option String) :=
  given.value? name fun value => if value = "" then none else some value

def natural? (given : Given) (name : String) : Except UsageError (Option Nat) :=
  given.value? name fun value => (readNatural value.toList).toOption

def decimal? (given : Given) (name : String) : Except UsageError (Option Binary64) :=
  given.value? name fun value => (readDecimal value.toList).toOption

end Given

/-- A value that must be given by an option. -/
def required {α : Type} (name : String) : Option α → Except UsageError α
  | none => .error (.missingOption name)
  | some a => .ok a

end MarketBrief.Command
