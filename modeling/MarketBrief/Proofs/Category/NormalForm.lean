import Mathlib
import MarketBrief.Proofs.Category.Faults
import MarketBrief.Proofs.Lists

/-!
# Tables in normal form

* `Entry.IsNormal`, `IsNormalGroup`: nothing is left to trim, to set in lowercase or to leave out;
* `IsNormalOf`: what becomes of the label and the keywords of an entry;
* `normalEntries_eq_self`, `make_eq_self`: entries in normal form are made into themselves;
* `Origin`: the ways to a table; `exists_given_of_table`: each table is made of the entries that are given;
* `table_isNormal`: every table is in normal form and is what is made of its own entries.
-/

namespace MarketBrief.Category

open MarketBrief.Lists Text

/-! ### Normal form -/

/-- An entry with nothing to trim, no capitals in its keywords, and each keyword once. -/
structure Entry.IsNormal (e : Entry) : Prop where
  label_ne : e.label ≠ ""
  trimmed_label : trimmed e.label = e.label
  keywords_ne : e.keywords ≠ []
  nodup : e.keywords.Nodup
  keyword : ∀ keyword ∈ e.keywords, keyword ≠ "" ∧ trimmed keyword = keyword ∧ lowered keyword = keyword

instance (e : Entry) : Decidable e.IsNormal :=
  decidable_of_iff (e.label ≠ "" ∧ trimmed e.label = e.label ∧ e.keywords ≠ [] ∧ e.keywords.Nodup ∧
      ∀ keyword ∈ e.keywords, keyword ≠ "" ∧ trimmed keyword = keyword ∧ lowered keyword = keyword)
    ⟨fun ⟨h₁, h₂, h₃, h₄, h₅⟩ => ⟨h₁, h₂, h₃, h₄, h₅⟩, fun ⟨h₁, h₂, h₃, h₄, h₅⟩ => ⟨h₁, h₂, h₃, h₄, h₅⟩⟩

/-- Entries in normal form, no two with one label up to case. -/
structure IsNormalGroup (entries : List Entry) : Prop where
  entry : ∀ e ∈ entries, e.IsNormal
  nodup : (entries.map fun e => lowered e.label).Nodup

/-- The entry has the trimmed label of the given one, and its keywords as they are first seen in normal form. -/
structure IsNormalOf (given e : Entry) : Prop where
  label_eq : e.label = trimmed given.label
  keywords : FirstSeen (given.keywords.map normalKeyword) e.keywords

theorem trimmed_normalKeyword (keyword : String) : trimmed (normalKeyword keyword) = normalKeyword keyword :=
  trimmed_lowered (trimmed_trimmed keyword)

theorem lowered_normalKeyword (keyword : String) : lowered (normalKeyword keyword) = normalKeyword keyword :=
  lowered_lowered (trimmed keyword)

section Entry

variable {seen : List String} {e out : Entry}

theorem isNormalOf_of_normalEntry (h : normalEntry seen e = .ok out) : IsNormalOf e out := by
  obtain ⟨-, -, -, -, rfl⟩ := normalEntry_eq_ok_iff.1 h
  exact ⟨rfl, firstSeen_eraseDups _⟩

theorem isNormal_of_normalEntry (h : normalEntry seen e = .ok out) : out.IsNormal := by
  have hseen := (isNormalOf_of_normalEntry h).keywords
  obtain ⟨hlabel, -, hsome, hblank, rfl⟩ := normalEntry_eq_ok_iff.1 h
  refine ⟨hlabel, trimmed_trimmed _, fun hnil => ?_, hseen.nodup, fun keyword hkeyword => ?_⟩
  · obtain ⟨keyword, hkeyword⟩ := List.exists_mem_of_ne_nil _ hsome
    have hmem := (hseen.mem_iff _).2 (List.mem_map_of_mem hkeyword)
    rw [hnil] at hmem
    exact absurd hmem List.not_mem_nil
  · have hmem := (hseen.mem_iff keyword).1 hkeyword
    obtain ⟨given, -, rfl⟩ := List.mem_map.1 hmem
    exact ⟨fun hempty => hblank (hempty ▸ hmem), trimmed_normalKeyword given, lowered_normalKeyword given⟩

theorem Entry.IsNormal.map_normalKeyword (h : e.IsNormal) : e.keywords.map normalKeyword = e.keywords := by
  have hself : ∀ keyword ∈ e.keywords, normalKeyword keyword = id keyword := by
    intro keyword hkeyword
    obtain ⟨-, htrimmed, hlowered⟩ := h.keyword keyword hkeyword
    rw [normalKeyword, htrimmed, hlowered, id]
  rw [List.map_congr_left hself, List.map_id]

theorem normalEntry_eq_self (h : e.IsNormal) (hseen : lowered e.label ∉ seen) : normalEntry seen e = .ok e := by
  rw [normalEntry_eq_ok_iff, h.trimmed_label, h.map_normalKeyword, eraseDups_of_nodup h.nodup]
  exact ⟨h.label_ne, hseen, h.keywords_ne, fun hempty => (h.keyword "" hempty).1 rfl, rfl⟩

end Entry

/-! ### Groups -/

section Group

variable {seen : List String} {es out : List Entry}

theorem isNormalOf_of_normalEntries (h : normalEntries seen es = .ok out) : List.Forall₂ IsNormalOf es out := by
  induction es generalizing seen out with
  | nil =>
    cases h
    exact .nil
  | cons e es ih =>
    obtain ⟨e', es', he, hes, rfl⟩ := normalEntries_cons_eq_ok_iff.1 h
    exact .cons (isNormalOf_of_normalEntry he) (ih hes)

theorem isNormal_of_normalEntries (h : normalEntries seen es = .ok out) : ∀ e ∈ out, e.IsNormal := by
  induction es generalizing seen out with
  | nil =>
    cases h
    exact fun e he => absurd he List.not_mem_nil
  | cons e es ih =>
    obtain ⟨e', es', he, hes, rfl⟩ := normalEntries_cons_eq_ok_iff.1 h
    exact List.forall_mem_cons.2 ⟨isNormal_of_normalEntry he, ih hes⟩

theorem isNormalGroup_of_normalEntries (h : normalEntries seen es = .ok out) : IsNormalGroup out :=
  ⟨isNormal_of_normalEntries h, (nodup_labels_of_normalEntries h).1⟩

/-- Entries in normal form pass every check, as long as no label has been seen before. -/
theorem normalEntries_eq_self (h : IsNormalGroup es) (hseen : ∀ e ∈ es, lowered e.label ∉ seen) :
    normalEntries seen es = .ok es := by
  induction es generalizing seen with
  | nil => rfl
  | cons e es ih =>
    obtain ⟨hnormal, hnodup⟩ := h
    obtain ⟨he, hes⟩ := List.forall_mem_cons.1 hnormal
    obtain ⟨hfresh, hseen⟩ := List.forall_mem_cons.1 hseen
    obtain ⟨hout, hnodup⟩ := List.nodup_cons.1 hnodup
    have hrest : normalEntries (lowered e.label :: seen) es = .ok es := by
      refine ih ⟨hes, hnodup⟩ fun d hd hmem => ?_
      rcases List.mem_cons.1 hmem with heq | hmem
      · exact hout (List.mem_map.2 ⟨d, hd, heq⟩)
      · exact hseen d hd hmem
    exact normalEntries_cons_eq_ok_iff.2 ⟨e, es, normalEntry_eq_self he hfresh, hrest, rfl⟩

end Group

/-! ### Tables -/

theorem make_eq_self {t : Table} (h : ∀ group, IsNormalGroup (t.entries group)) :
    Table.make t.themes t.risks t.signals = .ok t := by
  have hself : ∀ group, normalEntries [] (t.entries group) = .ok (t.entries group) := fun group =>
    normalEntries_eq_self (h group) fun _ _ => List.not_mem_nil
  exact make_eq_ok_iff.2 ⟨hself .themes, hself .risks, hself .signals⟩

theorem isNormal_fintech (group : Group) : ∀ e ∈ Table.fintech.entries group, e.IsNormal := by
  cases group <;> decide +kernel

theorem isNormalGroup_fintech (group : Group) : IsNormalGroup (Table.fintech.entries group) :=
  ⟨isNormal_fintech group, Table.Built.fintech.nodup_labels group⟩

theorem Table.Built.isNormalGroup {t : Table} (h : t.Built) (group : Group) : IsNormalGroup (t.entries group) := by
  cases h with
  | fintech => exact isNormalGroup_fintech group
  | @make themes risks signals t h =>
    exact isNormalGroup_of_normalEntries (@normalEntries_of_make ⟨themes, risks, signals⟩ t h group)

/-! ### Origins -/

/-- The ways to a table: it is made of three lists of entries, of a text or of a file with these contents, if it can be
read; or it is built in. -/
inductive Origin
  | lists (themes risks signals : List Entry)
  | text (contents : String)
  | file (contents? : Option String)
  | builtIn

def Origin.table : Origin → Except TableError Table
  | .lists themes risks signals => (Table.make themes risks signals).mapError .faulty
  | .text contents => Table.read contents
  | .file contents? => Table.load contents?
  | .builtIn => .ok .fintech

/-- The entries that a text writes for the three groups. -/
def writtenIn? (contents : String) : Option Table :=
  match groupsOfText? contents with
  | some [some themes, some risks, some signals] => some ⟨themes, risks, signals⟩
  | _ => none

def Origin.given? : Origin → Option Table
  | .lists themes risks signals => some ⟨themes, risks, signals⟩
  | .text contents => writtenIn? contents
  | .file contents? => contents?.bind writtenIn?
  | .builtIn => some .fintech

theorem exists_writtenIn_of_read {contents : String} {t : Table} (h : Table.read contents = .ok t) :
    ∃ given, writtenIn? contents = some given ∧ Table.make given.themes given.risks given.signals = .ok t := by
  obtain ⟨themes, risks, signals, hgroups, hmake⟩ := read_eq_ok_iff.1 h
  exact ⟨⟨themes, risks, signals⟩, by rw [writtenIn?, hgroups], hmake⟩

/-- A table is made of the entries that are given, the built-in one too. -/
theorem exists_given_of_table {o : Origin} {t : Table} (h : o.table = .ok t) :
    ∃ given, o.given? = some given ∧ Table.make given.themes given.risks given.signals = .ok t := by
  cases o with
  | lists themes risks signals => exact ⟨⟨themes, risks, signals⟩, rfl, mapError_eq_ok_iff.1 h⟩
  | text contents => exact exists_writtenIn_of_read h
  | file contents? =>
    cases contents? with
    | none => exact nomatch h
    | some contents => exact exists_writtenIn_of_read h
  | builtIn =>
    cases h
    exact ⟨.fintech, rfl, make_eq_self isNormalGroup_fintech⟩

/-- **Every table is in normal form.** Wherever a table comes from, its entries are those that were given, in their
order, with trimmed labels and with the normal forms of their keywords in the order in which they are first seen. No
label and no keyword is empty, no label of a group comes twice up to case, no keyword of an entry twice, and every
keyword is trimmed and in lowercase. So a table made of the entries of another one is that table. -/
theorem table_isNormal {o : Origin} {t : Table} (h : o.table = .ok t) :
    (∃ given, o.given? = some given ∧
      ∀ group, List.Forall₂ IsNormalOf (given.entries group) (t.entries group)) ∧
    (∀ group, IsNormalGroup (t.entries group)) ∧
    Table.make t.themes t.risks t.signals = .ok t := by
  obtain ⟨given, hgiven, hmake⟩ := exists_given_of_table h
  have hgroups := normalEntries_of_make hmake
  have hnormal : ∀ group, IsNormalGroup (t.entries group) := fun group => isNormalGroup_of_normalEntries (hgroups group)
  exact ⟨⟨given, hgiven, fun group => isNormalOf_of_normalEntries (hgroups group)⟩, hnormal, make_eq_self hnormal⟩

/-! A file whose only label has blanks around it, and whose keywords are one up to case and blanks. -/

namespace Lending

def file : Origin :=
  .file (some "themes:\n- label: ' Lending '\n  keywords: [Loan, 'loan ']\nrisks: []\nsignals: []\n")

def table : Table := ⟨[⟨"Lending", ["loan"]⟩], [], []⟩

theorem table_file : file.table = .ok table := by cbv

theorem table_isNormal_of_file :
    file.table = .ok table ∧
      (∃ given, file.given? = some given ∧
        ∀ group, List.Forall₂ IsNormalOf (given.entries group) (table.entries group)) ∧
      (∀ group, IsNormalGroup (table.entries group)) ∧
      Table.make table.themes table.risks table.signals = .ok table :=
  ⟨table_file, table_isNormal table_file⟩

end Lending

end MarketBrief.Category
