import MarketBrief.Proofs.Category.NormalForm
import MarketBrief.Proofs.Thesis.Order

/-!
# Tables with an entry less

A ranking leaves out what has no hits, and its order compares entries two by two. So without one entry the ranking of
its group is the old one without that entry's label, and the rankings of the other groups are the old ones.

* `Table.withEntries`, `Table.without`: another list of entries in one group, and one entry less;
* `isBuilt_without`: a table with an entry less is a table;
* `labels_rankEntries_erase`: the ranking of a group with an entry less;
* `Scorer.over`, `Scorer.nextLabel?`: a scorer over another table, and the first label that a thesis leaves out;
* `thesis_without_entry`: the thesis of a table with an entry less;
* `Crowded.thesis_without_entries`: three entries with hits, of which two are kept.
-/

namespace MarketBrief

open Category Text

/-! ### Tables -/

namespace Category

def Table.withEntries (t : Table) (entries : List Entry) : Group → Table
  | .themes => { t with themes := entries }
  | .risks => { t with risks := entries }
  | .signals => { t with signals := entries }

def Table.without (t : Table) (group : Group) (e : Entry) : Table :=
  t.withEntries ((t.entries group).erase e) group

@[simp] theorem entries_withEntries_self (t : Table) (entries : List Entry) (group : Group) :
    (t.withEntries entries group).entries group = entries := by
  cases group <;> rfl

theorem entries_withEntries_of_ne {group other : Group} (h : other ≠ group) (t : Table) (entries : List Entry) :
    (t.withEntries entries group).entries other = t.entries other := by
  cases group <;> cases other <;> first | rfl | exact absurd rfl h

theorem IsNormalGroup.of_sublist {entries fewer : List Entry} (h : IsNormalGroup entries)
    (hsub : fewer.Sublist entries) : IsNormalGroup fewer :=
  ⟨fun e he => h.entry e (hsub.subset he), h.nodup.sublist (hsub.map _)⟩

theorem isBuilt_without {t : Table} (h : t.Built) (group : Group) (e : Entry) : (t.without group e).Built := by
  refine .make (make_eq_self fun other => ?_)
  by_cases hother : other = group
  · subst hother
    rw [Table.without, entries_withEntries_self]
    exact (h.isNormalGroup other).of_sublist List.erase_sublist
  · rw [Table.without, entries_withEntries_of_ne hother]
    exact h.isNormalGroup other

/-- No other entry of the group has the label of the entry. -/
theorem erase_eq_filter_label {entries : List Entry} (hnodup : (entries.map fun e => lowered e.label).Nodup)
    {e : Entry} (he : e ∈ entries) : entries.erase e = entries.filter (·.label != e.label) := by
  rw [(List.Nodup.of_map _ hnodup).erase_eq_filter]
  refine List.filter_congr fun d hd => ?_
  have hunique : d.label = e.label → d = e := fun hlabel =>
    List.inj_on_of_nodup_map hnodup hd he (congrArg lowered hlabel)
  rw [Bool.eq_iff_iff, bne_iff_ne, bne_iff_ne]
  exact not_congr ⟨congrArg Entry.label, hunique⟩

end Category

/-! ### Rankings -/

theorem rankEntries_filter_label (s : Strategy) (text : String) (entries : List Entry) (keep : String → Bool) :
    rankEntries s text (entries.filter fun e => keep e.label) =
      (rankEntries s text entries).filter fun r => keep r.label := by
  rw [rankEntries_eq_map, rankEntries_eq_map, List.filter_comm, Lists.mergeSort_desc_filter, List.filter_map]
  rfl

section Labels

variable {entries : List Entry} (hnodup : (entries.map fun e => lowered e.label).Nodup) (s : Strategy) (text : String)

include hnodup

theorem nodup_map_label_rankEntries : ((rankEntries s text entries).map Ranked.label).Nodup := by
  have hlowered := nodup_labels_of_rankEntries hnodup s text
  rw [← Function.comp_def, ← List.map_map] at hlowered
  exact List.Nodup.of_map _ hlowered

/-- With an entry less, the labels of a ranking are the old ones without its label. -/
theorem labels_rankEntries_erase {e : Entry} (he : e ∈ entries) :
    (rankEntries s text (entries.erase e)).map Ranked.label =
      ((rankEntries s text entries).map Ranked.label).erase e.label := by
  rw [erase_eq_filter_label hnodup he, rankEntries_filter_label s text entries (· != e.label),
    (nodup_map_label_rankEntries hnodup s text).erase_eq_filter, List.filter_map]
  rfl

end Labels

/-! ### Theses -/

/-- The scorer over another table. -/
def Scorer.over (s : Scorer) (table : Table) : Scorer := { s with table }

/-- The best label of a group among those that a thesis leaves out. -/
def Scorer.nextLabel? (s : Scorer) (summary : String) (group : Group) : Option String :=
  ((s.rank summary group)[s.topN]?).map Ranked.label

theorem topLabels_eq_take (s : Scorer) (summary : String) (group : Group) :
    s.topLabels summary group = ((s.rank summary group).map Ranked.label).take s.topN :=
  List.map_take

theorem topLabels_over_withEntries {group other : Group} (h : other ≠ group) (s : Scorer) (entries : List Entry)
    (summary : String) :
    (s.over (s.table.withEntries entries group)).topLabels summary other = s.topLabels summary other := by
  simp only [Scorer.topLabels, Scorer.rank, Scorer.over, entries_withEntries_of_ne h]

section Without

variable {s : Scorer} (h : s.table.Built) (summary : String) {group : Group}

include h

theorem notMem_topLabels_of_mem_nextLabel? {label : String} (hlabel : label ∈ s.nextLabel? summary group) :
    label ∉ s.topLabels summary group := by
  have hnodup := nodup_map_label_rankEntries (h.nodup_labels group) s.strategy (lowered summary)
  have hnext : label ∈ (((s.rank summary group).map Ranked.label).drop s.topN).head? := by
    rwa [List.head?_drop, List.getElem?_map]
  rw [topLabels_eq_take]
  exact fun hin => List.disjoint_take_drop hnodup (Nat.le_refl _) hin (List.mem_of_head? hnext)

variable {e : Entry} (he : e ∈ s.table.entries group)

include he

theorem labels_rank_without :
    ((s.over (s.table.without group e)).rank summary group).map Ranked.label =
      ((s.rank summary group).map Ranked.label).erase e.label := by
  simp only [Scorer.rank, Scorer.over, Table.without, entries_withEntries_self]
  exact labels_rankEntries_erase (h.nodup_labels group) s.strategy (lowered summary) he

theorem topLabels_without_of_notMem (hout : e.label ∉ s.topLabels summary group) (other : Group) :
    (s.over (s.table.without group e)).topLabels summary other = s.topLabels summary other := by
  by_cases hother : other = group
  · subst hother
    rw [topLabels_eq_take] at hout
    rw [topLabels_eq_take, labels_rank_without h summary he, topLabels_eq_take]
    exact Lists.take_erase_of_notMem hout
  · exact topLabels_over_withEntries hother s _ summary

theorem topLabels_without_of_mem (hin : e.label ∈ s.topLabels summary group) :
    (s.over (s.table.without group e)).topLabels summary group =
      (s.topLabels summary group).erase e.label ++ (s.nextLabel? summary group).toList := by
  rw [topLabels_eq_take] at hin
  rw [topLabels_eq_take, labels_rank_without h summary he, topLabels_eq_take]
  refine (Lists.take_erase_of_mem hin).trans (congrArg (_ ++ ·) ?_)
  rw [List.take_one, List.head?_drop, List.getElem?_map]
  rfl

end Without

/-- **Irrelevant entries.** Leave an entry out of a table. If its label is not in the thesis, the whole thesis stays as
it is. If it is, then the list of its group loses this label and gets at its end the next one of the ranking, if there
is one; that one was not in the list. Whatever is done to the entries of a group, the lists of the other groups and the
sources stay as they are. -/
theorem thesis_without_entry (s : Scorer) (h : s.table.Built) (summary : String) (documents : List Document)
    (group : Group) :
    (∀ e ∈ s.table.entries group, (s.table.without group e).Built ∧
      (e.label ∉ (s.thesis summary documents).labels group →
        (s.over (s.table.without group e)).thesis summary documents = s.thesis summary documents) ∧
      (e.label ∈ (s.thesis summary documents).labels group →
        ((s.over (s.table.without group e)).thesis summary documents).labels group =
            ((s.thesis summary documents).labels group).erase e.label ++ (s.nextLabel? summary group).toList ∧
          ∀ label ∈ s.nextLabel? summary group, label ∉ (s.thesis summary documents).labels group)) ∧
    ∀ entries : List Entry,
      (∀ other ≠ group, ((s.over (s.table.withEntries entries group)).thesis summary documents).labels other =
        (s.thesis summary documents).labels other) ∧
      ((s.over (s.table.withEntries entries group)).thesis summary documents).sources =
        (s.thesis summary documents).sources := by
  simp only [labels_thesis]
  refine ⟨fun e he => ⟨isBuilt_without h group e, fun hout => ?_, fun hin => ⟨?_, fun label => ?_⟩⟩,
    fun entries => ⟨fun other hother => ?_, rfl⟩⟩
  · exact thesis_congr (topLabels_without_of_notMem h summary he hout) documents
  · exact topLabels_without_of_mem h summary he hin
  · exact notMem_topLabels_of_mem_nextLabel? h summary
  · exact topLabels_over_withEntries hother s entries summary

/-! Three entries with hits, of which two are kept. -/

namespace Crowded

def crypto : Entry := ⟨"Crypto", ["coin"]⟩

def lending : Entry := ⟨"Lending", ["loan", "credit"]⟩

def payments : Entry := ⟨"Payments", ["card"]⟩

/-- The second entry has more hits than the two beside it, which have equal ones. -/
def table : Table := ⟨[crypto, lending, payments], [⟨"Fraud", ["scam"]⟩], []⟩

def scorer : Scorer := { table, topN := 2 }

def summary : String := "Card loans, credit, coins and a scam."

theorem built_table : scorer.table.Built :=
  have h : Table.make table.themes table.risks table.signals = .ok table := by decide +kernel
  .make h

theorem labels_themes : (scorer.thesis summary []).labels .themes = ["Lending", "Crypto"] := by cbv

theorem nextLabel?_themes : scorer.nextLabel? summary .themes = some "Payments" := by cbv

theorem thesis_without_entries :
    scorer.table.Built ∧
    (payments ∈ scorer.table.entries .themes ∧ payments.label ∉ (scorer.thesis summary []).labels .themes ∧
      (scorer.over (scorer.table.without .themes payments)).thesis summary [] = scorer.thesis summary []) ∧
    (lending ∈ scorer.table.entries .themes ∧ lending.label ∈ (scorer.thesis summary []).labels .themes ∧
      ((scorer.over (scorer.table.without .themes lending)).thesis summary []).labels .themes =
        ["Crypto", "Payments"]) ∧
    (Group.risks ≠ .themes ∧
      ((scorer.over (scorer.table.withEntries [crypto] .themes)).thesis summary []).labels .risks =
        (scorer.thesis summary []).labels .risks) := by
  obtain ⟨hwithout, hwith⟩ := thesis_without_entry scorer built_table summary [] .themes
  have hpayments : payments ∈ scorer.table.entries .themes := by decide +kernel
  have hlending : lending ∈ scorer.table.entries .themes := by decide +kernel
  have hout : payments.label ∉ (scorer.thesis summary []).labels .themes := by rw [labels_themes]; decide
  have hin : lending.label ∈ (scorer.thesis summary []).labels .themes := by rw [labels_themes]; decide
  refine ⟨built_table, ⟨hpayments, hout, (hwithout payments hpayments).2.1 hout⟩, ⟨hlending, hin, ?_⟩,
    ⟨by decide, (hwith [crypto]).1 .risks (by decide)⟩⟩
  rw [((hwithout lending hlending).2.2 hin).1, labels_themes, nextLabel?_themes]
  decide +kernel

end Crowded

end MarketBrief
