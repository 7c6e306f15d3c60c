import MarketBrief.Command.Run

/-!
# The program

Reads what a run may ask for, and writes its outcome.

* `surroundings`: the environment, the environment file, the files that arguments and settings name, and the standard
  input if it is named;
* `main`.
-/

open MarketBrief

namespace MarketBrief.Program

def contents? (path : String) : IO (Option ByteArray) := do
  try return some (← IO.FS.readBinFile path) catch _ => return none

/-- The contents of the file `.env` in a folder or the nearest one above it, up to some folders above. -/
def envFileAbove? (folder : String) : Nat → IO (Option ByteArray)
  | 0 => return none
  | more + 1 => do
    match ← contents? (folder ++ ".env") with
    | some bytes => return some bytes
    | none => envFileAbove? (folder ++ "../") more

/-- The most folders that are searched for an environment file. -/
def searchedFolders : Nat := 64

def environment (names : List String) : IO Environment :=
  names.filterMapM fun name => do return (← IO.getEnv name).map fun value => (name, value.toUTF8)

/-- The paths that a command reads from, besides that of the table. -/
def commandPaths : Command → List String
  | .summarize documents _ => [documents]
  | .rank (.text _) documents? => documents?.toList
  | .rank (.file summary) documents? => summary :: documents?.toList
  | .report documents _ summary? _ _ => documents :: summary?.toList
  | .categories _ => []

/-- The longest pieces of a text that hold nothing but some characters. -/
def pieces (p : Char → Bool) (text : String) : List String :=
  ((text.toList.map fun c => if p c then c else ' ').splitOn ' ').map String.ofList

/-- The names of variables that an environment file may mention. -/
def mentioned (file : ByteArray) : List String :=
  let text := (String.fromUTF8? file).getD ""
  pieces Unicode.isAlphanumeric text ++ pieces (fun c => c.isAlphanum || c == '_' || c == '.') text

def surroundings (i : Invocation) : IO Surroundings := do
  let envFile? ← envFileAbove? "" searchedFolders
  let environment ← environment
    (Settings.LogFilter.filterVariable :: Settings.variableNames ++ envFile?.elim [] mentioned)
  let known : Surroundings := { environment, envFile?, read? := fun _ => none }
  let tablePaths := i.overrides.categoriesPath?.toList ++
    (known.loaded.toOption >>= fun e => (Settings.read e).toOption >>= Settings.categoriesPath?).toList
  let files ← (tablePaths ++ (commandPaths i.command).filter (· ≠ "-")).filterMapM fun path => do
    return (← contents? path).map (path, ·)
  let input ← if "-" ∈ commandPaths i.command then (← IO.getStdin).readBinToEnd else pure .empty
  return { known with read? := fun path => files.lookup path, input }

end MarketBrief.Program

/-- Runs the program with some arguments. -/
def main (arguments : List String) : IO UInt32 := do
  let outcome ← match Invocation.read arguments with
    | .error e => pure (.misused e)
    | .ok i => pure (run (← Program.surroundings i) arguments)
  outcome.written.forM IO.print
  if let some message := outcome.message? then IO.eprintln ("Error: " ++ message)
  return outcome.exitCode.toUInt32
