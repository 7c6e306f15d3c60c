import MarketBrief.Category.Source
import MarketBrief.Proofs.Except

/-!
# Tables that can be had

* `Table.Built`: the built-in table, and what is made of lists of entries; `built_of_load`: files give no others;
* `normalEntry_eq_ok_iff`, `normalEntries_cons_eq_ok_iff`, `make_eq_ok_iff`: what a table is made of, step by step;
* `Table.Built.nodup_labels`: no two labels of a group agree up to case.
-/

namespace MarketBrief.Category

open Text

/-- The built-in table, and every table that is made of three lists of entries. -/
inductive Table.Built : Table → Prop
  | fintech : Built .fintech
  | make {themes risks signals : List Entry} {t : Table} : Table.make themes risks signals = .ok t → Built t

/-! ### Making a table -/

theorem normalEntry_eq_ok_iff {seen : List String} {e out : Entry} :
    normalEntry seen e = .ok out ↔
      trimmed e.label ≠ "" ∧ lowered (trimmed e.label) ∉ seen ∧ e.keywords ≠ [] ∧
        "" ∉ e.keywords.map normalKeyword ∧ out = ⟨trimmed e.label, (e.keywords.map normalKeyword).eraseDups⟩ := by
  unfold normalEntry
  dsimp only
  split
  · next h => simp [h]
  · next hlabel =>
    split
    · next h => simp [h]
    · next hseen =>
      split
      · next h => simp_all
      · next hsome =>
        split
        · next h => simp [h]
        · next hblank =>
          constructor
          · intro h
            cases h
            exact ⟨hlabel, hseen, by simpa using hsome, hblank, rfl⟩
          · rintro ⟨-, -, -, -, rfl⟩
            rfl

theorem normalEntries_cons_eq_ok_iff {seen : List String} {e : Entry} {es out : List Entry} :
    normalEntries seen (e :: es) = .ok out ↔ ∃ e' es', normalEntry seen e = .ok e' ∧
      normalEntries (lowered e'.label :: seen) es = .ok es' ∧ out = e' :: es' := by
  simp only [normalEntries, bind_eq_ok_iff]
  constructor
  · rintro ⟨e', he, es', hes, hout⟩
    exact ⟨e', es', he, hes, by cases hout; rfl⟩
  · rintro ⟨e', es', he, hes, rfl⟩
    exact ⟨e', he, es', hes, rfl⟩

theorem make_eq_ok_iff {themes risks signals : List Entry} {t : Table} :
    Table.make themes risks signals = .ok t ↔ normalEntries [] themes = .ok t.themes ∧
      normalEntries [] risks = .ok t.risks ∧ normalEntries [] signals = .ok t.signals := by
  simp only [Table.make, normalGroup, bind_eq_ok_iff, mapError_eq_ok_iff]
  constructor
  · rintro ⟨ts, hthemes, rs, hrisks, ss, hsignals, ht⟩
    cases ht
    exact ⟨hthemes, hrisks, hsignals⟩
  · rintro ⟨hthemes, hrisks, hsignals⟩
    exact ⟨_, hthemes, _, hrisks, _, hsignals, rfl⟩

/-! ### Tables of files -/

/-- A text gives a table if it writes entries for every group and a table can be made of them. -/
theorem read_eq_ok_iff {text : String} {t : Table} :
    Table.read text = .ok t ↔ ∃ themes risks signals,
      groupsOfText? text = some [some themes, some risks, some signals] ∧ Table.make themes risks signals = .ok t := by
  unfold Table.read
  constructor
  · intro h
    split at h
    · next themes? risks? signals? hgroups =>
      cases themes? with
      | none => exact nomatch h
      | some themes =>
        cases risks? with
        | none => exact nomatch h
        | some risks =>
          cases signals? with
          | none => exact nomatch h
          | some signals => exact ⟨themes, risks, signals, hgroups, mapError_eq_ok_iff.1 h⟩
    · exact nomatch h
  · rintro ⟨themes, risks, signals, hgroups, hmake⟩
    rw [hgroups]
    exact mapError_eq_ok_iff.2 hmake

theorem built_of_read {text : String} {t : Table} (h : Table.read text = .ok t) : t.Built := by
  obtain ⟨themes, risks, signals, -, hmake⟩ := read_eq_ok_iff.1 h
  exact .make hmake

theorem built_of_load {contents? : Option String} {t : Table} (h : Table.load contents? = .ok t) : t.Built := by
  cases contents? with
  | none => exact nomatch h
  | some text => exact built_of_read h

/-! ### Labels -/

theorem nodup_labels_of_normalEntries {seen : List String} {es out : List Entry}
    (h : normalEntries seen es = .ok out) :
    (out.map fun e => lowered e.label).Nodup ∧ ∀ e ∈ out, lowered e.label ∉ seen := by
  induction es generalizing seen out with
  | nil =>
    cases h
    exact ⟨List.nodup_nil, fun e he => absurd he List.not_mem_nil⟩
  | cons e es ih =>
    obtain ⟨e', es', he, hes, rfl⟩ := normalEntries_cons_eq_ok_iff.1 h
    obtain ⟨hnodup, hfresh⟩ := ih hes
    have hseen : lowered e'.label ∉ seen := by
      obtain ⟨-, hseen, -, -, rfl⟩ := normalEntry_eq_ok_iff.1 he
      exact hseen
    refine ⟨List.nodup_cons.2 ⟨fun hmem => ?_, hnodup⟩, fun d hd => ?_⟩
    · obtain ⟨d, hd, heq⟩ := List.mem_map.1 hmem
      exact hfresh d hd (by rw [heq]; exact List.mem_cons_self)
    · rcases List.mem_cons.1 hd with rfl | hd
      · exact hseen
      · exact fun hmem => hfresh d hd (List.mem_cons_of_mem _ hmem)

/-- No two labels of a group agree up to case. -/
theorem Table.Built.nodup_labels {t : Table} (h : t.Built) (group : Group) :
    ((t.entries group).map fun e => lowered e.label).Nodup := by
  cases h with
  | fintech => cases group <;> decide +kernel
  | make h =>
    obtain ⟨hthemes, hrisks, hsignals⟩ := make_eq_ok_iff.1 h
    cases group with
    | themes => exact (nodup_labels_of_normalEntries hthemes).1
    | risks => exact (nodup_labels_of_normalEntries hrisks).1
    | signals => exact (nodup_labels_of_normalEntries hsignals).1

end MarketBrief.Category
