import MarketBrief.Proofs.Except
import MarketBrief.Proofs.Lists
import MarketBrief.Settings.EnvFile

/-!
# Environment files and a variable

A file may look at a variable in two ways: it assigns to it, unless it is set already, and it takes its value into
those of others.

* `EnvFile.Assigns`, `EnvFile.Substitutes`: what a line does with a variable;
* `EnvFile.LeavesAlone`: files that do neither;
* `valueOf_without`, `assign_without`, `assignLines_without`: reading a name, an assignment and the lines of a file do
  not depend on such a variable;
* `load_without`, `lookup_of_load`: the environment behind such a file is the same but for the variable, which keeps its
  value.
-/

namespace MarketBrief

open MarketBrief.Lists

namespace EnvFile

def assignments (file : ByteArray) : List (Option (List Char)) :=
  joinLines [] .plain (physicalLines (dropByteOrderMark file.toList))

/-- A line assigns to a variable. -/
def Assigns (line : List Char) (name : String) : Prop :=
  ∃ value text, readLine? value line = some (some (name, text))

/-- Looking for a name in a value may find a variable: its own, or one whose name or value goes on behind the equals
sign that the other has in it. -/
def LeadsTo (looked name : String) : Prop :=
  (looked ++ "=").toUTF8.toList <+: (name ++ "=").toUTF8.toList ∨
    (name ++ "=").toUTF8.toList <+: (looked ++ "=").toUTF8.toList

/-- What a line assigns depends on the value of a variable. -/
def Substitutes (line : List Char) (name : String) : Prop :=
  ∃ value other, (∀ looked, ¬LeadsTo (String.ofList looked) name → value looked = other looked) ∧
    readLine? value line ≠ readLine? other line

/-- No line of a file assigns to a variable or takes its value into another one. -/
def LeavesAlone (file : ByteArray) (name : String) : Prop :=
  ∀ line, some line ∈ assignments file → ¬Assigns line name ∧ ¬Substitutes line name

/-! ### One line -/

section Line

variable {e : Environment} {name other looked : String}

theorem isPrefixOf?_entryBytes (h : ¬LeadsTo looked name) (bytes : ByteArray) :
    (looked ++ "=").toUTF8.toList.isPrefixOf? (entryBytes (name, bytes)) = none := by
  refine Option.eq_none_iff_forall_ne_some.2 fun rest hrest => h ?_
  have hlooked : (looked ++ "=").toUTF8.toList <+: entryBytes (name, bytes) :=
    ⟨rest, List.isPrefixOf?_eq_some_iff_append_eq.1 hrest⟩
  exact List.prefix_or_prefix_of_prefix hlooked (List.prefix_append _ _)

theorem written?_without (h : ¬LeadsTo looked name) : written? (without name e) looked = written? e looked := by
  refine congrArg (· >>= _) ?_
  induction e with
  | nil => rfl
  | cons entry e ih =>
    obtain ⟨key, bytes⟩ := entry
    by_cases hkey : key = name
    · subst hkey
      rw [without_cons_self, ih, List.findSome?_cons, isPrefixOf?_entryBytes h]
    · rw [without_cons_of_ne hkey, List.findSome?_cons, List.findSome?_cons, ih]

theorem valueOf_without (assigned : List (String × String)) {looked : List Char}
    (h : ¬LeadsTo (String.ofList looked) name) :
    valueOf (without name e) assigned looked = valueOf e assigned looked := by
  rw [valueOf, valueOf, written?_without h]

theorem readLine?_without {line : List Char} (h : ¬Substitutes line name) (assigned : List (String × String)) :
    readLine? (valueOf (without name e) assigned) line = readLine? (valueOf e assigned) line := by
  by_contra hne
  exact h ⟨_, _, fun _ hlooked => valueOf_without assigned hlooked, hne⟩

theorem assign_without (h : other ≠ name) (text : String) :
    assign (without name e) other text = (assign e other text).map (without name) := by
  have hget : Environment.get? (without name e) other = e.get? other :=
    congrArg (· >>= String.fromUTF8?) (lookup_without_of_ne h)
  unfold assign
  rw [hget]
  split
  · rfl
  split
  · rfl
  · exact congrArg Except.ok (without_cons_of_ne h).symm

theorem lookup_of_assign (h : other ≠ name) {text : String} {e' : Environment} (he : assign e other text = .ok e') :
    e'.lookup name = e.lookup name := by
  unfold assign at he
  split at he
  · cases he
    rfl
  split at he
  · exact nomatch he
  · cases he
    rw [List.lookup_cons, beq_false_of_ne h.symm]

end Line

/-! ### All lines -/

section Lines

variable {name : String} {lines : List (Option (List Char))}

theorem assignLines_without (h : ∀ line, some line ∈ lines → ¬Assigns line name ∧ ¬Substitutes line name)
    (e : Environment) (assigned : List (String × String)) :
    assignLines (without name e) assigned lines = (assignLines e assigned lines).map (without name) := by
  induction lines generalizing e assigned with
  | nil => rfl
  | cons line? lines ih =>
    have ih := ih fun line hline => h line (.tail _ hline)
    cases line? with
    | none => rfl
    | some line =>
      obtain ⟨hassigns, hsubstitutes⟩ := h line (.head _)
      unfold assignLines
      rw [readLine?_without hsubstitutes]
      split
      · rfl
      · exact ih e assigned
      · next other text hline =>
        have hother : other ≠ name := by
          rintro rfl
          exact hassigns ⟨_, text, hline⟩
        rw [assign_without hother]
        cases assign e other text with
        | error fault => rfl
        | ok e' => exact ih e' _

theorem lookup_of_assignLines (h : ∀ line, some line ∈ lines → ¬Assigns line name) {e e' : Environment}
    {assigned : List (String × String)} (he : assignLines e assigned lines = .ok e') :
    e'.lookup name = e.lookup name := by
  induction lines generalizing e assigned with
  | nil =>
    cases he
    rfl
  | cons line? lines ih =>
    have hrest : ∀ line, some line ∈ lines → ¬Assigns line name := fun line hline => h line (.tail _ hline)
    cases line? with
    | none =>
      cases he
      rfl
    | some line =>
      unfold assignLines at he
      split at he
      · cases he
        rfl
      · exact ih hrest he
      · next other text hline =>
        have hother : other ≠ name := by
          rintro rfl
          exact h line (.head _) ⟨_, text, hline⟩
        obtain ⟨between, hassign, he⟩ := bind_eq_ok_iff.1 he
        rw [ih hrest he, lookup_of_assign hother hassign]

end Lines

end EnvFile

/-! ### Files -/

section Files

variable {file : ByteArray} {name : String} {e e' : Environment}

/-- A file that leaves a variable alone adds the same to an environment with the variable and without it. -/
theorem load_without (h : EnvFile.LeavesAlone file name) :
    Environment.load (without name e) file = (e.load file).map (without name) :=
  EnvFile.assignLines_without h e []

theorem lookup_of_load (h : EnvFile.LeavesAlone file name) (he : e.load file = .ok e') :
    e'.lookup name = e.lookup name :=
  EnvFile.lookup_of_assignLines (fun line hline => (h line hline).1) he

end Files

end MarketBrief
