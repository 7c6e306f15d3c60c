import MarketBrief.Number.Decimal
import MarketBrief.Number.Shortest
import MarketBrief.Extraction.Options
import MarketBrief.Text.Basic

/-!
# Settings

Settings come from environment variables; each has a default.

* `Environment`: variables with their values, which need not be text;
* `Settings`, `Settings.read`: the settings of an environment, or the first variable that is at fault;
* `Settings.checkThreshold`: the range that a threshold must lie in.
-/

namespace MarketBrief

open Number Text

/-- Names of variables with the bytes of their values. -/
abbrev Environment := List (String × ByteArray)

/-- The value of a variable, if it is set to text. -/
def Environment.get? (e : Environment) (name : String) : Option String := e.lookup name >>= String.fromUTF8?

/-- The settings of a run. -/
structure Settings where
  /-- What is logged, in the form of `Settings.LogFilter`. -/
  logLevel : String := "info"
  /-- The file of the category table; none stands for the built-in table. -/
  categoriesPath? : Option String := none
  /-- The most sentences that a summary has. -/
  maxSentences : Nat := 7
  /-- A sentence that overlaps with a chosen one by more than this is a duplicate. -/
  overlapThreshold : Binary64 := Extraction.defaultThreshold
  /-- The fewest words that a sentence needs. -/
  minSentenceWords : Nat := 4
  /-- How many labels of a group a thesis keeps. -/
  topN : Nat := 3
  deriving DecidableEq

namespace Settings

/-- A threshold that lies outside the range from zero to one. -/
structure OutOfRange where
  value : Binary64
  deriving DecidableEq

def OutOfRange.message (e : OutOfRange) : String := e.value.text ++ " is outside [0, 1]"

def checkThreshold (x : Binary64) : Except OutOfRange Binary64 :=
  if x.isFraction then .ok x else .error ⟨x⟩

/-- Why a value is no setting. -/
inductive Reason where
  | noNumber (fault : NumberFault)
  | outOfRange (e : OutOfRange)
  deriving DecidableEq

def Reason.message : Reason → String
  | .noNumber fault => fault.message
  | .outOfRange e => e.message

/-- A variable whose value is no setting. -/
structure InvalidVariable where
  name : String
  reason : Reason
  deriving DecidableEq

def InvalidVariable.message (e : InvalidVariable) : String :=
  "invalid value for " ++ e.name ++ ": " ++ e.reason.message

/-! ### Variables -/

def logLevelVariable : String := "FINTHESIS_LOG_LEVEL"

def categoriesPathVariable : String := "FINTHESIS_CATEGORIES_PATH"

def maxSentencesVariable : String := "FINTHESIS_MAX_SENTENCES"

def overlapThresholdVariable : String := "FINTHESIS_OVERLAP_THRESHOLD"

def minSentenceWordsVariable : String := "FINTHESIS_MIN_SENTENCE_WORDS"

def topNVariable : String := "FINTHESIS_TOP_N"

def variableNames : List String :=
  [logLevelVariable, categoriesPathVariable, maxSentencesVariable, overlapThresholdVariable,
    minSentenceWordsVariable, topNVariable]

/-! ### Reading -/

/-- A whole number with blanks around it. -/
def readCount (value : String) : Except Reason Nat := (readNatural (trim value.toList)).mapError .noNumber

/-- A threshold with blanks around it. -/
def readThreshold (value : String) : Except Reason Binary64 := do
  let x ← (readDecimal (trim value.toList)).mapError .noNumber
  (checkThreshold x).mapError .outOfRange

/-- The value of a variable as `read` reads it, or the default where it is not set. -/
def readVariable {α : Type} (e : Environment) (name : String) (read : String → Except Reason α) (default : α) :
    Except InvalidVariable α :=
  match e.get? name with
  | none => .ok default
  | some value => (read value).mapError (⟨name, ·⟩)

/-- The settings of an environment. A path that is blank counts as not set. -/
def read (e : Environment) : Except InvalidVariable Settings := do
  let d : Settings := {}
  let logLevel := (e.get? logLevelVariable).getD d.logLevel
  let categoriesPath? := ((e.get? categoriesPathVariable).map trimmed).filter (· ≠ "")
  let maxSentences ← readVariable e maxSentencesVariable readCount d.maxSentences
  let minSentenceWords ← readVariable e minSentenceWordsVariable readCount d.minSentenceWords
  let topN ← readVariable e topNVariable readCount d.topN
  let overlapThreshold ← readVariable e overlapThresholdVariable readThreshold d.overlapThreshold
  return { logLevel, categoriesPath?, maxSentences, overlapThreshold, minSentenceWords, topN }

end Settings

end MarketBrief
