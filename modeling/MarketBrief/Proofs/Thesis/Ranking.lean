import MarketBrief.Proofs.Category.Scoring
import MarketBrief.Thesis.Ranking

/-!
# Where the labels of a thesis come from

* `Thesis.labels`: the labels of a thesis, group by group;
* `thesis_congr`, `thesis_eq_of_rank_eq`: a thesis depends on nothing but the labels of its groups, or their rankings,
  and on the documents;
* `rankEntries_eq_of_forall₂`, `rankEntries_congr`: a ranking depends on nothing but the labels and their hits;
* `exists_entry_of_mem_labels`: a label of a thesis stands for an entry with a keyword that counts in the summary.
-/

namespace MarketBrief

open Category Text

def Thesis.labels (t : Thesis) : Group → List String
  | .themes => t.keyThemes
  | .risks => t.risks
  | .signals => t.investmentSignals

@[simp] theorem labels_thesis (s : Scorer) (summary : String) (documents : List Document) (group : Group) :
    (s.thesis summary documents).labels group = s.topLabels summary group := by
  cases group <;> rfl

theorem thesis_congr {s t : Scorer} {x y : String} (h : ∀ group, s.topLabels x group = t.topLabels y group)
    (documents : List Document) : s.thesis x documents = t.thesis y documents := by
  simp only [Scorer.thesis, h]

theorem thesis_eq_of_rank_eq {s t : Scorer} {x y : String} (htop : s.topN = t.topN)
    (h : ∀ group, s.rank x group = t.rank y group) (documents : List Document) :
    s.thesis x documents = t.thesis y documents :=
  thesis_congr (fun group => by rw [Scorer.topLabels, Scorer.topLabels, htop, h]) documents

theorem rankEntries_eq_of_forall₂ {s : Strategy} {text other : String} {entries others : List Entry}
    (h : List.Forall₂ (fun e d => e.label = d.label ∧ s.hits text e.keywords = s.hits other d.keywords) entries others) :
    rankEntries s text entries = rankEntries s other others := by
  have hmap : (entries.map fun e => (⟨e.label, s.hits text e.keywords⟩ : Ranked)) =
      others.map fun e => ⟨e.label, s.hits other e.keywords⟩ := by
    induction h with
    | nil => rfl
    | cons hfirst _ ih => rw [List.map_cons, List.map_cons, ih, hfirst.1, hfirst.2]
  rw [rankEntries, hmap, rankEntries]

theorem rankEntries_congr {s : Strategy} {text other : String} {entries : List Entry}
    (h : ∀ e ∈ entries, s.hits text e.keywords = s.hits other e.keywords) :
    rankEntries s text entries = rankEntries s other entries :=
  rankEntries_eq_of_forall₂ (List.forall₂_same.2 fun e he => ⟨rfl, h e he⟩)

theorem mem_rankEntries {s : Strategy} {text : String} {entries : List Entry} {r : Ranked} :
    r ∈ rankEntries s text entries ↔
      ∃ e ∈ entries, 0 < s.hits text e.keywords ∧ r = ⟨e.label, s.hits text e.keywords⟩ := by
  unfold rankEntries
  rw [List.mem_mergeSort, List.mem_filter, List.mem_map]
  constructor
  · rintro ⟨⟨e, he, rfl⟩, hpos⟩
    exact ⟨e, he, by simpa using hpos, rfl⟩
  · rintro ⟨e, he, hpos, rfl⟩
    exact ⟨⟨e, he, rfl⟩, by simpa using hpos⟩

theorem exists_entry_of_mem_labels {s : Scorer} {summary : String} {documents : List Document} {group : Group}
    {label : String} (h : label ∈ (s.thesis summary documents).labels group) :
    ∃ entry ∈ s.table.entries group, entry.label = label ∧
      ∃ keyword ∈ entry.keywords, 0 < countOccurrences (lowered summary) keyword := by
  rw [labels_thesis] at h
  obtain ⟨r, hr, rfl⟩ := List.mem_map.1 h
  obtain ⟨entry, hentry, hpos, rfl⟩ := mem_rankEntries.1 (List.mem_of_mem_take hr)
  exact ⟨entry, hentry, rfl, (s.strategy.hits_pos_iff _ _).1 hpos⟩

end MarketBrief
