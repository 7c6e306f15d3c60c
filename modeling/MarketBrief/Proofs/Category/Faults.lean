import Mathlib.Data.Prod.Lex
import MarketBrief.Proofs.Category.Table
import MarketBrief.Proofs.Text.Lowered

/-!
# The first fault of a table

* `HasFault`, `FaultAt`: what is wrong with an entry behind others, and with an entry of a group;
* `IsFirstFault`: no fault of the table comes before this one, by groups, then by entries, then by checks;
* `normalEntries_eq_error`, `not_faultAt_of_normalEntries`: making the entries of a group stops at its first fault;
* `message_injective`: a message tells the group, the fault and the label;
* `make_first_fault`: three lists of entries make a table exactly if they are valid, else their first fault is reported.
-/

namespace MarketBrief.Category

open Text

/-! ### Faults -/

/-- What a label is compared by. -/
def Entry.key (e : Entry) : String := lowered (trimmed e.label)

/-- What is wrong with an entry that stands behind the entries `before` in its group. -/
inductive HasFault (before : List Entry) (e : Entry) : Fault → Prop
  | emptyLabel : trimmed e.label = "" → HasFault before e .emptyLabel
  | duplicateLabel {d : Entry} : d ∈ before → d.key = e.key → HasFault before e (.duplicateLabel (trimmed e.label))
  | noKeywords : e.keywords = [] → HasFault before e (.noKeywords (trimmed e.label))
  | blankKeyword {keyword : String} : keyword ∈ e.keywords → trimmed keyword = "" →
      HasFault before e (.blankKeyword (trimmed e.label))

/-- The fault is one of the entry at place `i` of its group. -/
def FaultAt (entries : List Entry) (i : Nat) (fault : Fault) : Prop :=
  ∃ e, entries[i]? = some e ∧ HasFault (entries.take i) e fault

/-- The checks of an entry in order. -/
def Fault.rank : Fault → Nat
  | .emptyLabel => 0
  | .duplicateLabel _ => 1
  | .noKeywords _ => 2
  | .blankKeyword _ => 3

def Group.rank : Group → Nat
  | .themes => 0
  | .risks => 1
  | .signals => 2

/-- Where a fault of the entry at place `i` is found: first by groups, then by entries, then by checks. -/
def TableFault.place (f : TableFault) (i : Nat) : ℕ ×ₗ ℕ ×ₗ ℕ := toLex (f.group.rank, toLex (i, f.fault.rank))

/-- The first of all faults in the three groups of entries. -/
def IsFirstFault (given : Table) (f : TableFault) : Prop :=
  ∃ i, FaultAt (given.entries f.group) i f.fault ∧
    ∀ (g : TableFault) (j : Nat), FaultAt (given.entries g.group) j g.fault → f.place i ≤ g.place j

theorem Group.rank_injective : Function.Injective Group.rank := by
  intro g h heq
  cases g <;> cases h <;> first | rfl | exact absurd heq (by decide)

/-- An entry has no two faults that the same check finds. -/
theorem HasFault.eq_of_rank {before : List Entry} {e : Entry} {f g : Fault} (hf : HasFault before e f)
    (hg : HasFault before e g) (h : f.rank = g.rank) : f = g := by
  cases hf <;> cases hg <;> first | rfl | exact absurd h (by simp [Fault.rank])

theorem IsFirstFault.eq {given : Table} {f g : TableFault} (hf : IsFirstFault given f) (hg : IsFirstFault given g) :
    f = g := by
  obtain ⟨i, hi, hfirst⟩ := hf
  obtain ⟨j, hj, hfirst'⟩ := hg
  have hplace : f.place i = g.place j := le_antisymm (hfirst g j hj) (hfirst' f i hi)
  obtain ⟨hgroup, hplace⟩ := Prod.mk.inj (toLex.injective hplace)
  obtain ⟨rfl, hrank⟩ := Prod.mk.inj (toLex.injective hplace)
  obtain ⟨group, fault⟩ := f
  obtain ⟨group', fault'⟩ := g
  obtain rfl := Group.rank_injective hgroup
  obtain ⟨e, he, hfault⟩ := hi
  obtain ⟨e', he', hfault'⟩ := hj
  obtain rfl := Option.some.inj (he.symm.trans he')
  obtain rfl : fault = fault' := hfault.eq_of_rank hfault' hrank
  rfl

/-! ### Entries -/

theorem normalKeyword_eq_empty_iff {keyword : String} : normalKeyword keyword = "" ↔ trimmed keyword = "" :=
  lowered_eq_empty_iff

/-- The keys are those of the entries. -/
def AreKeys (seen : List String) (before : List Entry) : Prop := ∀ key, key ∈ seen ↔ ∃ d ∈ before, d.key = key

theorem AreKeys.nil : AreKeys [] [] := fun key => by simp

theorem AreKeys.cons {seen : List String} {before : List Entry} (h : AreKeys seen before) (e : Entry) :
    AreKeys (e.key :: seen) (before ++ [e]) := by
  intro key
  rw [List.mem_cons, h key]
  constructor
  · rintro (rfl | ⟨d, hd, hkey⟩)
    · exact ⟨e, by simp, rfl⟩
    · exact ⟨d, List.mem_append_left _ hd, hkey⟩
  · rintro ⟨d, hd, rfl⟩
    rcases List.mem_append.1 hd with hd | hd
    · exact Or.inr ⟨d, hd, rfl⟩
    · exact Or.inl (by rw [List.mem_singleton.1 hd])

section Entry

variable {seen : List String} {before : List Entry} {e out : Entry} {f : Fault}

theorem HasFault.one_le_rank (h : HasFault before e f) (hlabel : trimmed e.label ≠ "") : 1 ≤ f.rank := by
  cases h with
  | emptyLabel hempty => exact absurd hempty hlabel
  | duplicateLabel | noKeywords | blankKeyword => simp [Fault.rank]

theorem HasFault.two_le_rank (h : HasFault before e f) (hlabel : trimmed e.label ≠ "")
    (hfresh : ∀ d ∈ before, d.key ≠ e.key) : 2 ≤ f.rank := by
  cases h with
  | emptyLabel hempty => exact absurd hempty hlabel
  | duplicateLabel hd hkey => exact absurd hkey (hfresh _ hd)
  | noKeywords | blankKeyword => simp [Fault.rank]

theorem HasFault.three_le_rank (h : HasFault before e f) (hlabel : trimmed e.label ≠ "")
    (hfresh : ∀ d ∈ before, d.key ≠ e.key) (hsome : e.keywords ≠ []) : 3 ≤ f.rank := by
  cases h with
  | emptyLabel hempty => exact absurd hempty hlabel
  | duplicateLabel hd hkey => exact absurd hkey (hfresh _ hd)
  | noKeywords hnone => exact absurd hnone hsome
  | blankKeyword => simp [Fault.rank]

/-- An entry is rejected for the first check that it fails. -/
theorem normalEntry_eq_error (hseen : AreKeys seen before) (h : normalEntry seen e = .error f) :
    HasFault before e f ∧ ∀ g, HasFault before e g → f.rank ≤ g.rank := by
  unfold normalEntry at h
  dsimp only at h
  split at h
  · next hlabel =>
    cases h
    exact ⟨.emptyLabel hlabel, fun g _ => Nat.zero_le _⟩
  · next hlabel =>
    split at h
    · next hdup =>
      cases h
      obtain ⟨d, hd, hkey⟩ := (hseen _).1 hdup
      exact ⟨.duplicateLabel hd hkey, fun g hg => hg.one_le_rank hlabel⟩
    · next hseen' =>
      have hfresh : ∀ d ∈ before, d.key ≠ e.key := fun d hd hkey => hseen' ((hseen _).2 ⟨d, hd, hkey⟩)
      split at h
      · next hnone =>
        cases h
        exact ⟨.noKeywords (by simpa using hnone), fun g hg => hg.two_le_rank hlabel hfresh⟩
      · next hsome =>
        have hsome : e.keywords ≠ [] := by simpa using hsome
        split at h
        · next hblank =>
          cases h
          obtain ⟨keyword, hkeyword, hempty⟩ := List.mem_map.1 hblank
          exact ⟨.blankKeyword hkeyword (normalKeyword_eq_empty_iff.1 hempty),
            fun g hg => hg.three_le_rank hlabel hfresh hsome⟩
        · cases h

theorem not_hasFault_of_normalEntry (hseen : AreKeys seen before) (h : normalEntry seen e = .ok out) :
    ¬ HasFault before e f := by
  obtain ⟨hlabel, hfresh, hsome, hblank, -⟩ := normalEntry_eq_ok_iff.1 h
  intro hfault
  cases hfault with
  | emptyLabel hempty => exact hlabel hempty
  | duplicateLabel hd hkey => exact hfresh ((hseen _).2 ⟨_, hd, hkey⟩)
  | noKeywords hnone => exact hsome hnone
  | blankKeyword hkeyword hempty =>
    exact hblank (List.mem_map.2 ⟨_, hkeyword, normalKeyword_eq_empty_iff.2 hempty⟩)

theorem key_of_normalEntry (h : normalEntry seen e = .ok out) : lowered out.label = e.key := by
  obtain ⟨-, -, -, -, rfl⟩ := normalEntry_eq_ok_iff.1 h
  rfl

end Entry

/-! ### Groups -/

section Group

variable {seen : List String} {before : List Entry}

theorem faultAt_length_iff {e : Entry} {rest : List Entry} {f : Fault} :
    FaultAt (before ++ e :: rest) before.length f ↔ HasFault before e f := by
  simp [FaultAt]

/-- Behind some entries stands the next one, or one behind that. -/
theorem FaultAt.cases_cons {e : Entry} {rest : List Entry} {i : Nat} {f : Fault} (hi : before.length ≤ i)
    (h : FaultAt (before ++ e :: rest) i f) :
    i = before.length ∧ HasFault before e f ∨
      (before ++ [e]).length ≤ i ∧ before.length < i ∧ FaultAt (before ++ [e] ++ rest) i f := by
  rcases Nat.eq_or_lt_of_le hi with rfl | hlt
  · exact Or.inl ⟨rfl, faultAt_length_iff.1 h⟩
  · exact Or.inr ⟨by rwa [List.length_append], hlt, by simpa using h⟩

theorem not_faultAt_of_normalEntries {es out : List Entry} (hseen : AreKeys seen before)
    (h : normalEntries seen es = .ok out) {i : Nat} (hi : before.length ≤ i) (f : Fault) :
    ¬ FaultAt (before ++ es) i f := by
  induction es generalizing seen before out with
  | nil =>
    rintro ⟨e, he, -⟩
    rw [List.append_nil, List.getElem?_eq_none hi] at he
    exact nomatch he
  | cons e es ih =>
    obtain ⟨e', es', he, hes, -⟩ := normalEntries_cons_eq_ok_iff.1 h
    rw [key_of_normalEntry he] at hes
    intro hfault
    rcases hfault.cases_cons hi with ⟨-, hfault⟩ | ⟨hi, -, hfault⟩
    · exact not_hasFault_of_normalEntry hseen he hfault
    · exact ih (hseen.cons e) hes hi hfault

/-- Making the entries stops at the first fault behind those that have been made. -/
theorem normalEntries_eq_error {es : List Entry} {f : Fault} (hseen : AreKeys seen before)
    (h : normalEntries seen es = .error f) :
    ∃ i, FaultAt (before ++ es) i f ∧ ∀ j g, before.length ≤ j → FaultAt (before ++ es) j g →
      toLex (i, f.rank) ≤ toLex (j, g.rank) := by
  induction es generalizing seen before with
  | nil => cases h
  | cons e es ih =>
    rw [normalEntries, bind_eq_error_iff] at h
    rcases h with hentry | ⟨e', he, h⟩
    · obtain ⟨hfault, hfirst⟩ := normalEntry_eq_error hseen hentry
      refine ⟨before.length, faultAt_length_iff.2 hfault, fun j g hj hg => Prod.Lex.toLex_le_toLex.2 ?_⟩
      rcases hg.cases_cons hj with ⟨hat, hg⟩ | ⟨-, hlt, -⟩
      · exact Or.inr ⟨hat.symm, hfirst g hg⟩
      · exact Or.inl hlt
    · have hrest : normalEntries (e.key :: seen) es = .error f := by
        rw [bind_eq_error_iff, key_of_normalEntry he] at h
        rcases h with h | ⟨_, -, h⟩
        · exact h
        · cases h
      obtain ⟨i, hfault, hfirst⟩ := ih (hseen.cons e) hrest
      refine ⟨i, by simpa using hfault, fun j g hj hg => ?_⟩
      rcases hg.cases_cons hj with ⟨-, hg⟩ | ⟨hj, -, hg⟩
      · exact absurd hg (not_hasFault_of_normalEntry hseen he)
      · exact hfirst j g hj hg

end Group

/-- A group without faults: labels with something in them, no two equal up to case, and keywords with something in
them. -/
structure IsValidGroup (entries : List Entry) : Prop where
  label_ne : ∀ e ∈ entries, trimmed e.label ≠ ""
  nodup : (entries.map Entry.key).Nodup
  keywords_ne : ∀ e ∈ entries, e.keywords ≠ []
  keyword_ne : ∀ e ∈ entries, ∀ keyword ∈ e.keywords, trimmed keyword ≠ ""

theorem isValidGroup_iff {entries : List Entry} : IsValidGroup entries ↔ ∀ i f, ¬ FaultAt entries i f := by
  constructor
  · rintro ⟨hlabel, hnodup, hsome, hkeyword⟩ i f ⟨e, he, hfault⟩
    have hmem : e ∈ entries := List.mem_of_getElem? he
    cases hfault with
    | emptyLabel hempty => exact hlabel e hmem hempty
    | duplicateLabel hd hkey =>
      obtain ⟨hi, rfl⟩ := List.getElem?_eq_some_iff.1 he
      obtain ⟨j, hj, rfl⟩ := List.mem_take_iff_getElem.1 hd
      rw [List.Nodup, List.pairwise_map, List.pairwise_iff_getElem] at hnodup
      exact hnodup j i (by omega) hi (by omega) hkey
    | noKeywords hnone => exact hsome e hmem hnone
    | blankKeyword hk hempty => exact hkeyword e hmem _ hk hempty
  · intro h
    have hat : ∀ e ∈ entries, ∃ i, ∀ f, ¬ HasFault (entries.take i) e f := by
      intro e he
      obtain ⟨i, hi⟩ := List.mem_iff_getElem?.1 he
      exact ⟨i, fun f hfault => h i f ⟨e, hi, hfault⟩⟩
    refine ⟨fun e he hempty => ?_, ?_, fun e he hnone => ?_, fun e he keyword hk hempty => ?_⟩
    · obtain ⟨i, hi⟩ := hat e he
      exact hi _ (.emptyLabel hempty)
    · rw [List.Nodup, List.pairwise_map, List.pairwise_iff_getElem]
      intro i j hi hj hlt hkey
      have hmem : entries[i] ∈ entries.take j := List.mem_take_iff_getElem.2 ⟨i, by omega, rfl⟩
      exact h j _ ⟨entries[j], List.getElem?_eq_getElem hj, .duplicateLabel hmem hkey⟩
    · obtain ⟨i, hi⟩ := hat e he
      exact hi _ (.noKeywords hnone)
    · obtain ⟨i, hi⟩ := hat e he
      exact hi _ (.blankKeyword hk hempty)

/-! ### Tables -/

section Table

variable {given t : Table}

theorem normalEntries_of_make (h : Table.make given.themes given.risks given.signals = .ok t) (group : Group) :
    normalEntries [] (given.entries group) = .ok (t.entries group) := by
  obtain ⟨hthemes, hrisks, hsignals⟩ := make_eq_ok_iff.1 h
  cases group with
  | themes => exact hthemes
  | risks => exact hrisks
  | signals => exact hsignals

/-- A table is rejected for a group, all groups before that one having been made. -/
theorem make_eq_error {f : TableFault} (h : Table.make given.themes given.risks given.signals = .error f) :
    normalEntries [] (given.entries f.group) = .error f.fault ∧
      ∀ group, group.rank < f.group.rank → ∃ out, normalEntries [] (given.entries group) = .ok out := by
  simp only [Table.make, normalGroup, bind_eq_error_iff, mapError_eq_error_iff, mapError_eq_ok_iff] at h
  rcases h with ⟨fault, hfault, rfl⟩ | ⟨themes, hthemes, h⟩
  · exact ⟨hfault, fun group hlt => absurd hlt (Nat.not_lt_zero _)⟩
  · rcases h with ⟨fault, hfault, rfl⟩ | ⟨risks, hrisks, h⟩
    · refine ⟨hfault, fun group hlt => ?_⟩
      cases group with
      | themes => exact ⟨themes, hthemes⟩
      | risks => exact absurd hlt (Nat.lt_irrefl _)
      | signals => exact absurd hlt (by simp [Group.rank])
    · rcases h with ⟨fault, hfault, rfl⟩ | ⟨signals, -, h⟩
      · refine ⟨hfault, fun group hlt => ?_⟩
        cases group with
        | themes => exact ⟨themes, hthemes⟩
        | risks => exact ⟨risks, hrisks⟩
        | signals => exact absurd hlt (Nat.lt_irrefl _)
      · cases h

theorem not_faultAt_of_make (h : Table.make given.themes given.risks given.signals = .ok t) (group : Group) (i : Nat)
    (f : Fault) : ¬ FaultAt (given.entries group) i f :=
  not_faultAt_of_normalEntries .nil (normalEntries_of_make h group) (Nat.zero_le i) f

theorem isFirstFault_of_make {f : TableFault} (h : Table.make given.themes given.risks given.signals = .error f) :
    IsFirstFault given f := by
  obtain ⟨hfault, hbefore⟩ := make_eq_error h
  obtain ⟨i, hi, hfirst⟩ := normalEntries_eq_error .nil hfault
  refine ⟨i, hi, fun g j hg => Prod.Lex.toLex_le_toLex.2 ?_⟩
  rcases Nat.lt_trichotomy f.group.rank g.group.rank with hlt | heq | hgt
  · exact Or.inl hlt
  · rw [← Group.rank_injective heq] at hg
    exact Or.inr ⟨heq, hfirst j g.fault (Nat.zero_le j) hg⟩
  · obtain ⟨out, hout⟩ := hbefore g.group hgt
    exact absurd hg (not_faultAt_of_normalEntries .nil hout (Nat.zero_le j) g.fault)

theorem make_eq_error_iff (given : Table) (f : TableFault) :
    Table.make given.themes given.risks given.signals = .error f ↔ IsFirstFault given f := by
  refine ⟨isFirstFault_of_make, fun hf => ?_⟩
  cases hmake : Table.make given.themes given.risks given.signals with
  | ok t =>
    obtain ⟨i, hi, -⟩ := hf
    exact absurd hi (not_faultAt_of_make hmake f.group i f.fault)
  | error g => rw [(isFirstFault_of_make hmake).eq hf]

theorem exists_make_eq_ok_iff (given : Table) :
    (∃ t, Table.make given.themes given.risks given.signals = .ok t) ↔ ∀ group, IsValidGroup (given.entries group) := by
  constructor
  · rintro ⟨t, ht⟩ group
    exact isValidGroup_iff.2 (not_faultAt_of_make ht group)
  · intro hvalid
    cases hmake : Table.make given.themes given.risks given.signals with
    | ok t => exact ⟨t, rfl⟩
    | error f =>
      obtain ⟨i, hi, -⟩ := isFirstFault_of_make hmake
      exact absurd hi (isValidGroup_iff.1 (hvalid f.group) i f.fault)

end Table

/-! ### Messages -/

/-- The label that a fault names, trimmed. -/
def Fault.label? : Fault → Option String
  | .emptyLabel => none
  | .duplicateLabel label => some label
  | .noKeywords label => some label
  | .blankKeyword label => some label

section Text

variable (label : String)

theorem text_duplicateLabel :
    (Fault.duplicateLabel label).text = "duplicate category label '" ++ label ++ "'" := rfl

theorem text_noKeywords : (Fault.noKeywords label).text = "category '" ++ label ++ "' has no keywords" := rfl

theorem text_blankKeyword : (Fault.blankKeyword label).text = "category '" ++ label ++ "' has a blank keyword" := rfl

theorem isInfix_append_append (before behind : String) : label.toList <:+: (before ++ label ++ behind).toList := by
  rw [String.toList_append, String.toList_append]
  exact List.infix_append _ _ _

/-- In each text the tenth character and the last one tell the check. -/
def marks (text : String) : Option Char × Option Char := (text.toList[9]?, text.toList.getLast?)

theorem marks_emptyLabel : marks Fault.emptyLabel.text = (some 'l', some 'y') := rfl

theorem marks_duplicateLabel : marks (Fault.duplicateLabel label).text = (some ' ', some '\'') := by
  rw [text_duplicateLabel, marks, String.toList_append, String.toList_append, List.getLast?_append]
  rfl

theorem marks_noKeywords : marks (Fault.noKeywords label).text = (some '\'', some 's') := by
  rw [text_noKeywords, marks, String.toList_append, String.toList_append, List.getLast?_append]
  rfl

theorem marks_blankKeyword : marks (Fault.blankKeyword label).text = (some '\'', some 'd') := by
  rw [text_blankKeyword, marks, String.toList_append, String.toList_append, List.getLast?_append]
  rfl

end Text

theorem isInfix_label_text {f : Fault} {label : String} (h : label ∈ f.label?) :
    label.toList <:+: f.text.toList := by
  cases f with
  | emptyLabel => exact nomatch h
  | duplicateLabel label' | noKeywords label' | blankKeyword label' =>
    obtain rfl : label' = label := Option.some.inj h
    exact isInfix_append_append label' _ _

theorem message_eq (f : TableFault) :
    f.message = "category table validation failed: " ++ f.group.name ++ ": " ++ f.fault.text := rfl

theorem toList_message (f : TableFault) : f.message.toList = "category table validation failed: ".toList ++
    (f.group.name.toList ++ (": ".toList ++ f.fault.text.toList)) := by
  rw [message_eq, String.toList_append, String.toList_append, String.toList_append, List.append_assoc,
    List.append_assoc]

theorem isInfix_name_message (f : TableFault) : f.group.name.toList <:+: f.message.toList := by
  rw [toList_message]
  exact List.infix_append' _ _ _

theorem isInfix_label_message {f : TableFault} {label : String} (h : label ∈ f.fault.label?) :
    label.toList <:+: f.message.toList := by
  rw [toList_message]
  have hsuffix := (List.suffix_append ": ".toList f.fault.text.toList).trans (List.suffix_append f.group.name.toList _)
  exact (isInfix_label_text h).trans (hsuffix.trans (List.suffix_append _ _)).isInfix

theorem rank_eq_of_text {f g : Fault} (h : f.text = g.text) : f.rank = g.rank := by
  have hmarks : marks f.text = marks g.text := by rw [h]
  cases f <;> cases g <;>
    simp only [marks_emptyLabel, marks_duplicateLabel, marks_noKeywords, marks_blankKeyword] at hmarks
  all_goals first | rfl | exact absurd hmarks (by decide)

theorem eq_of_append_append_eq {before behind x y : String} (h : before ++ x ++ behind = before ++ y ++ behind) :
    x = y := by
  rwa [String.append_left_inj, String.append_right_inj] at h

theorem text_injective : Function.Injective Fault.text := by
  intro f g h
  have hrank := rank_eq_of_text h
  cases f with
  | emptyLabel => cases g <;> first | rfl | simp [Fault.rank] at hrank
  | duplicateLabel label =>
    cases g with
    | duplicateLabel label' =>
      rw [text_duplicateLabel, text_duplicateLabel] at h
      rw [eq_of_append_append_eq h]
    | emptyLabel | noKeywords | blankKeyword => simp [Fault.rank] at hrank
  | noKeywords label =>
    cases g with
    | noKeywords label' =>
      rw [text_noKeywords, text_noKeywords] at h
      rw [eq_of_append_append_eq h]
    | emptyLabel | duplicateLabel | blankKeyword => simp [Fault.rank] at hrank
  | blankKeyword label =>
    cases g with
    | blankKeyword label' =>
      rw [text_blankKeyword, text_blankKeyword] at h
      rw [eq_of_append_append_eq h]
    | emptyLabel | duplicateLabel | noKeywords => simp [Fault.rank] at hrank

/-- The names of two groups differ in their first letter. -/
theorem group_eq_of_name {g h : Group} {x y : List Char} (heq : g.name.toList ++ x = h.name.toList ++ y) : g = h := by
  have hhead := congrArg List.head? heq
  cases g <;> cases h <;> first | rfl | simp [Group.name] at hhead

theorem message_injective : Function.Injective TableFault.message := by
  rintro ⟨group, fault⟩ ⟨group', fault'⟩ h
  have hlist := congrArg String.toList h
  rw [toList_message, toList_message] at hlist
  have hbehind := List.append_cancel_left hlist
  obtain rfl := group_eq_of_name hbehind
  have htext := String.toList_inj.1 (List.append_cancel_left (List.append_cancel_left hbehind))
  obtain rfl := text_injective htext
  rfl

/-- **A table is made of valid entries only, and of others the first fault is reported.** Three lists of entries make a
table exactly if every group is valid. The fault that is reported otherwise is the first one, by groups, by entries and
by the checks of an entry. Its message names the group and, where the fault has one, the trimmed label, and tells any
two faults apart. -/
theorem make_first_fault (themes risks signals : List Entry) :
    ((∃ t, Table.make themes risks signals = .ok t) ↔
      ∀ group, IsValidGroup ((Table.mk themes risks signals).entries group)) ∧
    (∀ f, Table.make themes risks signals = .error f ↔ IsFirstFault ⟨themes, risks, signals⟩ f) ∧
    (∀ f : TableFault, f.group.name.toList <:+: f.message.toList ∧
      ∀ label ∈ f.fault.label?, label.toList <:+: f.message.toList) ∧
    Function.Injective TableFault.message := by
  exact ⟨exists_make_eq_ok_iff ⟨themes, risks, signals⟩, make_eq_error_iff ⟨themes, risks, signals⟩,
    fun f => ⟨isInfix_name_message f, fun _ => isInfix_label_message⟩, message_injective⟩

example : Table.make [] [⟨"Fraud", ["scam"]⟩, ⟨" fraud ", []⟩] [⟨"", []⟩] = .error ⟨.risks, .duplicateLabel "fraud"⟩ := by
  decide +kernel

end MarketBrief.Category
