import MarketBrief.Command.Arguments
import MarketBrief.Proofs.Command.Options

/-!
# Options among arguments

What an option that gives a setting does is not a matter of its place: it may stand anywhere before the two dashes that
end the arguments, as long as it does not part an option from its value.

* `Invocation.Parts`, `Invocation.scan`: the options before and behind the name of a command; `read_eq_scan`,
  `read_eq_ok_iff`: what they mean;
* `isSome_lookup_of_scan`, `exists_of_lookup_of_scan`: options that are given, and the arguments that give them;
* `TakesOption`, `scan_insert`: an option that is put among arguments leaves the other ones as they are.
-/

namespace MarketBrief

open MarketBrief.Lists

/-! ### The options before and behind the name of a command -/

namespace Invocation

open Command

/-- Arguments taken apart. -/
structure Parts where
  before : Given
  name : String
  behind : Given

def Parts.without (name : String) (p : Parts) : Parts :=
  { before := Lists.without name p.before, name := p.name, behind := Lists.without name p.behind }

/-- The options that may stand behind the name of a command. -/
def acceptedBehind (accepted : Accepted) : Accepted :=
  { accepted with options := accepted.options ++ Overrides.optionNames }

/-- The parts of arguments with some options behind the name, if nothing but two dashes follows. -/
def finish (before : Given) (name : String) (behind : Given) : List String → Except UsageError Parts
  | [] | ["--"] => .ok ⟨before, name, behind⟩
  | argument :: _ => .error (.unexpected argument)

/-- The parts of arguments with some options before the name. -/
def scanFrom (before : Given) : List String → Except UsageError Parts
  | [] => .error .missingCommand
  | name :: rest =>
    match accepted? name with
    | none => .error (.unexpected name)
    | some accepted =>
      Given.read (acceptedBehind accepted) [] rest >>= fun (behind, rest) => finish before name behind rest

def scan (arguments : List String) : Except UsageError Parts :=
  Given.read ⟨Overrides.optionNames, []⟩ [] arguments >>= fun (before, rest) => scanFrom before rest

/-- What the parts of arguments mean. -/
def Parts.meaning (p : Parts) : Except UsageError Invocation :=
  Overrides.ofGiven p.behind >>= fun o => Overrides.ofGiven p.before >>= fun q =>
    Command.ofGiven p.name p.behind >>= fun command => .ok { overrides := o.orElse q, command }

theorem read_eq_scan (arguments : List String) : read arguments = scan arguments >>= Parts.meaning := by
  unfold read scan
  rw [bind_assoc]
  refine bind_congr fun (before, rest) => ?_
  cases rest with
  | nil => rfl
  | cons name rest =>
    simp only [scanFrom]
    cases accepted? name with
    | none => rfl
    | some accepted =>
      simp only [bind_assoc]
      refine bind_congr fun (behind, rest) => ?_
      dsimp only
      split
      · rfl
      · rfl
      · next argument rest hend =>
        rw [finish]
        · rfl
        · exact hend

theorem read_eq_ok_iff {arguments : List String} {i : Invocation} :
    read arguments = .ok i ↔ ∃ p o q, scan arguments = .ok p ∧ Overrides.ofGiven p.behind = .ok o ∧
      Overrides.ofGiven p.before = .ok q ∧ Command.ofGiven p.name p.behind = .ok i.command ∧
      i.overrides = o.orElse q := by
  simp only [read_eq_scan, Parts.meaning, bind_eq_ok_iff, Except.ok.injEq]
  constructor
  · rintro ⟨p, hscan, o, ho, q, hq, command, hcommand, rfl⟩
    exact ⟨p, o, q, hscan, ho, hq, hcommand, rfl⟩
  · rintro ⟨p, o, q, hscan, ho, hq, hcommand, hoverrides⟩
    exact ⟨p, hscan, o, ho, q, hq, i.command, hcommand, by rw [← hoverrides]⟩

theorem exists_of_scan {arguments : List String} {p : Parts} (h : scan arguments = .ok p) :
    ∃ rest accepted last, Given.read ⟨Overrides.optionNames, []⟩ [] arguments = .ok (p.before, p.name :: rest) ∧
      accepted? p.name = some accepted ∧
      Given.read (acceptedBehind accepted) [] rest = .ok (p.behind, last) ∧ (last = [] ∨ last = ["--"]) := by
  obtain ⟨⟨before, rest⟩, hbefore, h⟩ := bind_eq_ok_iff.1 h
  cases rest with
  | nil => exact nomatch h
  | cons name rest =>
    simp only [scanFrom] at h
    split at h
    · exact nomatch h
    · next accepted haccepted =>
      obtain ⟨⟨behind, last⟩, hbehind, h⟩ := bind_eq_ok_iff.1 h
      simp only [finish] at h
      split at h
      · cases h
        exact ⟨rest, accepted, [], hbefore, haccepted, hbehind, .inl rfl⟩
      · cases h
        exact ⟨rest, accepted, ["--"], hbefore, haccepted, hbehind, .inr rfl⟩
      · exact nomatch h

theorem splitOption?_of_accepted {name : String} {accepted : Accepted} (h : accepted? name = some accepted) :
    splitOption? name.toList = none := by
  unfold accepted? at h
  split at h <;> first | rfl | exact nomatch h

theorem notMem_flags {command name : String} {accepted : Accepted} (h : accepted? command = some accepted)
    (hname : name ∈ Overrides.optionNames) : name ∉ (acceptedBehind accepted).flags := by
  revert name
  unfold accepted? at h
  split at h <;> cases h <;> decide

section Lookup

variable {arguments : List String} {p : Parts} {argument name value : String}

/-- An option among arguments that can be taken apart is given in one of the parts. -/
theorem isSome_lookup_of_scan (h : scan arguments = .ok p) (hmem : argument ∈ arguments)
    (hname : IsOption argument name) :
    ((p.behind.lookup name).or (p.before.lookup name)).isSome = true := by
  obtain ⟨rest, accepted, last, hbefore, haccepted, hbehind, hlast⟩ := exists_of_scan h
  obtain ⟨first, options, rfl, hoptions, hfirst, -⟩ := Given.exists_read_eq hbefore
  obtain ⟨second, options', rfl, hoptions', hsecond, -⟩ := Given.exists_read_eq hbehind
  obtain ⟨value?, hsplit⟩ := hname
  rw [Option.isSome_or, hoptions, hoptions', List.nil_append, List.nil_append, Bool.or_eq_true]
  simp only [List.mem_append, List.mem_cons] at hmem
  obtain hmem | rfl | hmem | hmem := hmem
  · exact .inr (hfirst argument hmem name ⟨value?, hsplit⟩)
  · exact nomatch (splitOption?_of_accepted haccepted).symm.trans hsplit
  · exact .inl (hsecond argument hmem name ⟨value?, hsplit⟩)
  · obtain rfl | rfl := hlast
    · exact nomatch hmem
    · cases List.mem_singleton.1 hmem
      exact nomatch hsplit

/-- An option in one of the parts comes from an argument. -/
theorem exists_of_lookup_of_scan (h : scan arguments = .ok p)
    (hvalue : p.before.lookup name = some value ∨ p.behind.lookup name = some value) :
    ∃ argument ∈ arguments, ∃ value?,
      splitOption? argument.toList = some (name, value?) ∧ ∀ text ∈ value?, text = value := by
  obtain ⟨rest, accepted, last, hbefore, -, hbehind, -⟩ := exists_of_scan h
  obtain ⟨first, options, rfl, hoptions, -, hfirst⟩ := Given.exists_read_eq hbefore
  obtain ⟨second, options', rfl, hoptions', -, hsecond⟩ := Given.exists_read_eq hbehind
  rw [hoptions, hoptions', List.nil_append, List.nil_append] at hvalue
  obtain hvalue | hvalue := hvalue
  · obtain ⟨argument, hargument, hof⟩ := hfirst name value hvalue
    exact ⟨argument, by simp [hargument], hof⟩
  · obtain ⟨argument, hargument, hof⟩ := hsecond name value hvalue
    exact ⟨argument, by simp [hargument], hof⟩

end Lookup

/-- A command has no option that gives a setting. -/
theorem ofGiven_without {name : String} (h : name ∈ Overrides.optionNames) (command : String) (given : Given) :
    Command.ofGiven command (without name given) = Command.ofGiven command given := by
  have hlookup : ∀ other, other ∉ Overrides.optionNames → (without name given).lookup other = given.lookup other :=
    fun other hother => lookup_without_of_ne fun heq => hother (heq ▸ h)
  simp only [Command.ofGiven, summaryOfGiven, Given.path?, Given.value?, Given.has,
    hlookup "docs" (by decide), hlookup "clean" (by decide), hlookup "summary" (by decide),
    hlookup "summary-file" (by decide), hlookup "topic" (by decide), hlookup "format" (by decide),
    hlookup "group" (by decide)]

/-! ### Putting in an option -/

/-- Options that take a value. -/
def TakesValue (name : String) : Prop :=
  name ∈ Overrides.optionNames ∨ ∃ command accepted, accepted? command = some accepted ∧ name ∈ accepted.options

/-- Behind these arguments an option may stand: no two dashes have ended them, and the last of them does not wait for
its value. -/
def TakesOption (a : List String) : Prop :=
  "--" ∉ a ∧ ∀ last ∈ a.getLast?, ∀ name, TakesValue name → splitOption? last.toList ≠ some (name, none)

section Insert

variable {name value argument : String} {a b rest : List String} {before : Given}

theorem finish_without (last : List String) (behind : Given) (command : String) :
    finish (without name before) command (without name behind) last =
      (finish before command behind last).map (Parts.without name) := by
  unfold finish
  split <;> rfl

theorem scanFrom_without (hleft : ∀ argument ∈ rest, ¬IsOption argument name) :
    scanFrom (without name before) rest = (scanFrom before rest).map (Parts.without name) := by
  cases rest with
  | nil => rfl
  | cons command rest =>
    simp only [scanFrom]
    cases accepted? command with
    | none => rfl
    | some accepted =>
      have hread : Given.read (acceptedBehind accepted) (without name []) rest =
          (Given.read (acceptedBehind accepted) [] rest).map (Prod.map (without name) id) :=
        Given.read_without fun argument hargument => hleft argument (.tail _ hargument)
      rw [without_nil] at hread
      dsimp only
      cases h : Given.read (acceptedBehind accepted) [] rest with
      | error fault => rfl
      | ok r =>
        obtain ⟨behind, last⟩ := r
        have hbehind : without name behind = behind := by
          rw [h] at hread
          exact (congrArg Prod.fst (Except.ok.inj hread)).symm
        rw [ok_bind, ok_bind, ← finish_without, hbehind]

theorem finish_of_ne {command : String} {behind : Given} {last : String} (h : last ≠ "--") :
    finish before command behind (last :: rest) = .error (.unexpected last) := by
  rw [finish]
  exact fun hlast _ => h hlast

theorem TakesOption.of_append {x : List String} (h : TakesOption (x ++ a)) : TakesOption a := by
  refine ⟨fun hdashes => h.1 (List.mem_append_right _ hdashes), fun last hlast => h.2 last ?_⟩
  rw [List.getLast?_append, hlast]
  rfl

/-- Behind the name of a command. -/
theorem scanFrom_insert {command : String} (hplace : TakesOption a) (hbefore : before.lookup name = none)
    (hleft : ∀ argument ∈ a ++ b, ¬IsOption argument name) (hname : name ∈ Overrides.optionNames)
    (hsplit : splitOption? argument.toList = some (name, some value)) :
    scanFrom before (command :: (a ++ b)) =
      (scanFrom before (command :: (a ++ argument :: b))).map (Parts.without name) := by
  rw [scanFrom, scanFrom]
  cases haccepted : accepted? command with
  | none => rfl
  | some accepted =>
    have hlast : ∀ last ∈ a.getLast?, ∀ name ∈ (acceptedBehind accepted).options,
        splitOption? last.toList ≠ some (name, none) := fun last hmem name hname =>
      hplace.2 last hmem name ((List.mem_append.1 hname).elim (fun h => .inr ⟨command, accepted, haccepted, h⟩) .inl)
    dsimp only
    cases hread : Given.read (acceptedBehind accepted) [] a with
    | error fault =>
      simp only [Given.read_append hlast, hread]
      rfl
    | ok r =>
      obtain ⟨behind, stopped⟩ := r
      cases stopped with
      | nil =>
        rw [Given.read_insert hlast hread rfl hleft hsplit (notMem_flags haccepted hname)
          (List.mem_append_right _ hname)]
        cases Given.read (acceptedBehind accepted) [] (a ++ argument :: b) with
        | error fault => rfl
        | ok r =>
          have hfinish : finish (without name before) command (without name r.1) r.2 =
              (finish before command r.1 r.2).map (Parts.without name) := finish_without r.2 r.1 command
          rwa [without_eq_self hbefore] at hfinish
      | cons last stopped =>
        -- what has stopped the reading is no end, with the option or without it
        obtain ⟨consumed, -, rfl, -⟩ := Given.exists_read_eq hread
        have hne : last ≠ "--" := by
          rintro rfl
          exact hplace.1 (by simp)
        simp only [Given.read_append hlast, hread, ok_bind, List.cons_ne_nil, if_false, List.cons_append,
          finish_of_ne hne]
        rfl

/-- Without the option that was put in, the arguments are those that there were. -/
theorem scan_insert (hplace : TakesOption a) (hleft : ∀ argument ∈ a ++ b, ¬IsOption argument name)
    (hname : name ∈ Overrides.optionNames) (hsplit : splitOption? argument.toList = some (name, some value)) :
    scan (a ++ b) = (scan (a ++ argument :: b)).map (Parts.without name) := by
  have hlast : ∀ last ∈ a.getLast?, ∀ name ∈ (⟨Overrides.optionNames, []⟩ : Accepted).options,
      splitOption? last.toList ≠ some (name, none) := fun last hmem name hname => hplace.2 last hmem name (.inl hname)
  cases hread : Given.read ⟨Overrides.optionNames, []⟩ [] a with
  | error fault =>
    simp only [scan, Given.read_append hlast, hread]
    rfl
  | ok r =>
    obtain ⟨before, stopped⟩ := r
    cases stopped with
    | nil =>
      -- the option stands before the name of the command
      have hinsert := Given.read_insert hlast hread rfl hleft hsplit List.not_mem_nil hname
      unfold scan
      rw [hinsert]
      cases h : Given.read ⟨Overrides.optionNames, []⟩ [] (a ++ argument :: b) with
      | error fault => rfl
      | ok r =>
        obtain ⟨before, rest⟩ := r
        rw [h] at hinsert
        obtain ⟨consumed, -, harguments, -⟩ := Given.exists_read_eq hinsert
        rw [harguments] at hleft
        exact scanFrom_without fun argument hargument => hleft argument (List.mem_append_right _ hargument)
    | cons command rest =>
      obtain ⟨consumed, -, rfl, -⟩ := Given.exists_read_eq hread
      have hscan : ∀ c, scan (consumed ++ command :: rest ++ c) = scanFrom before (command :: (rest ++ c)) := by
        intro c
        simp only [scan, Given.read_append hlast, hread, ok_bind, List.cons_ne_nil, if_false, List.cons_append]
      have hbefore : before.lookup name = none :=
        Given.lookup_of_read hread (fun argument hargument => hleft argument (List.mem_append_left _ hargument)) rfl
      have hplace : TakesOption rest := by
        rw [← List.singleton_append, ← List.append_assoc] at hplace
        exact hplace.of_append
      rw [hscan, hscan]
      refine scanFrom_insert hplace hbefore (fun argument hargument => hleft argument ?_) hname hsplit
      simp only [List.append_assoc, List.cons_append]
      exact List.mem_append_right _ (.tail _ hargument)

end Insert

end Invocation

end MarketBrief
