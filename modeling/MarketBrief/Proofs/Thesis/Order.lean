import MarketBrief.Proofs.Category.Table
import MarketBrief.Proofs.Thesis.Ranking

/-!
# The order of the labels of a thesis

* `RanksBefore`: more hits, or as many and a place further up in the table;
* `exists_order_of_rankEntries`: a ranking is the entries with hits, each once, in this order;
* `rank_and_labels`: the ranking of a group, and the labels that a thesis keeps of it;
* `Tie.rank_and_labels_of_tie`: a group in which two entries have equal hits.
-/

namespace MarketBrief

open Category Text

/-- An entry ranks before another if it has more hits, or as many and stands before it in the table. -/
def RanksBefore (s : Strategy) (text : String) (entries : List Entry) (a b : Entry) : Prop :=
  s.hits text b.keywords < s.hits text a.keywords ∨
    s.hits text a.keywords = s.hits text b.keywords ∧ [a, b].Sublist entries

def Category.Entry.ranked (s : Strategy) (text : String) (e : Entry) : Ranked := ⟨e.label, s.hits text e.keywords⟩

/-! ### Rankings -/

theorem rankEntries_eq_map (s : Strategy) (text : String) (entries : List Entry) :
    rankEntries s text entries = ((entries.filter fun e => 0 < s.hits text e.keywords).mergeSort
      fun a b => s.hits text b.keywords ≤ s.hits text a.keywords).map (Entry.ranked s text) := by
  have hfilter : (entries.map (Entry.ranked s text)).filter (0 < ·.hits) =
      (entries.filter fun e => 0 < s.hits text e.keywords).map (Entry.ranked s text) := List.filter_map
  have hsort := List.map_mergeSort (f := Entry.ranked s text) (s := fun a b => decide (b.hits ≤ a.hits))
    (l := entries.filter fun e => 0 < s.hits text e.keywords) fun a _ b _ => rfl
  exact (congrArg (List.mergeSort · fun a b => decide (b.hits ≤ a.hits)) hfilter).trans hsort.symm

theorem exists_order_of_rankEntries (s : Strategy) (text : String) (entries : List Entry) :
    ∃ order : List Entry, order.Perm (entries.filter fun e => 0 < s.hits text e.keywords) ∧
      order.Pairwise (RanksBefore s text entries) ∧ rankEntries s text entries = order.map (Entry.ranked s text) := by
  have hstable := Lists.pairwise_mergeSort_desc_stable (fun e : Entry => s.hits text e.keywords)
    (entries.filter fun e => 0 < s.hits text e.keywords)
  refine ⟨_, List.mergeSort_perm _ _, hstable.imp fun hab => ?_, rankEntries_eq_map s text entries⟩
  exact hab.imp_right fun ⟨heq, hsub⟩ => ⟨heq, hsub.trans List.filter_sublist⟩

theorem nodup_labels_of_rankEntries {entries : List Entry} (h : (entries.map fun e => lowered e.label).Nodup)
    (s : Strategy) (text : String) : ((rankEntries s text entries).map fun r => lowered r.label).Nodup := by
  obtain ⟨order, hperm, -, heq⟩ := exists_order_of_rankEntries s text entries
  have hlabel : (fun r : Ranked => lowered r.label) ∘ Entry.ranked s text = fun e => lowered e.label := rfl
  rw [heq, List.map_map, hlabel]
  have hsub := (List.filter_sublist (p := fun e => 0 < s.hits text e.keywords) (l := entries)).map
    fun e => lowered e.label
  exact (hperm.map _).nodup_iff.2 (h.sublist hsub)

/-! ### Labels -/

theorem topLabels_eq (s : Scorer) (summary : String) (group : Group) :
    s.topLabels summary group =
      ((s.rank summary group).take (min s.topN (s.rank summary group).length)).map Ranked.label := by
  rw [Scorer.topLabels, List.take_eq_take_min]

theorem topLabels_isPrefix (s : Scorer) (summary : String) (group : Group) {topN : Nat} (h : s.topN ≤ topN) :
    s.topLabels summary group <+: Scorer.topLabels { s with topN } summary group :=
  (List.take_prefix_take_left h).map Ranked.label

/-- The ranking of a group holds every entry with hits exactly once and no other, in descending order of the hits and,
where they are equal, in the order of the table. A thesis keeps the first labels of it, no two of them equal up to case,
and more if more may be kept. -/
theorem rank_and_labels (s : Scorer) (h : s.table.Built) (summary : String) (documents : List Document)
    (group : Group) :
    (∃ order : List Entry,
      order.Perm ((s.table.entries group).filter fun e => 0 < s.strategy.hits (lowered summary) e.keywords) ∧
      order.Pairwise (RanksBefore s.strategy (lowered summary) (s.table.entries group)) ∧
      s.rank summary group = order.map (Entry.ranked s.strategy (lowered summary))) ∧
    ((s.rank summary group).map fun r => lowered r.label).Nodup ∧
    (s.thesis summary documents).labels group =
      ((s.rank summary group).take (min s.topN (s.rank summary group).length)).map Ranked.label ∧
    (((s.thesis summary documents).labels group).map lowered).Nodup ∧
    ∀ topN, s.topN ≤ topN → (s.thesis summary documents).labels group <+:
      (Scorer.thesis { s with topN } summary documents).labels group := by
  have hnodup := nodup_labels_of_rankEntries (h.nodup_labels group) s.strategy (lowered summary)
  refine ⟨exists_order_of_rankEntries _ _ _, hnodup, ?_, ?_, fun topN htop => ?_⟩
  · rw [labels_thesis, topLabels_eq]
  · rw [labels_thesis, Scorer.topLabels, List.map_map]
    exact hnodup.sublist ((List.take_sublist _ _).map _)
  · rw [labels_thesis, labels_thesis]
    exact topLabels_isPrefix s summary group htop

/-! ### Equal hits -/

namespace Tie

/-- Two entries of one hit each around one without hits, as they are given. -/
def themes : List Entry := [⟨" Lending ", ["Loan"]⟩, ⟨"Crypto", ["coin"]⟩, ⟨"Payments", ["card", "CARD "]⟩]

def table : Table := ⟨[⟨"Lending", ["loan"]⟩, ⟨"Crypto", ["coin"]⟩, ⟨"Payments", ["card"]⟩], [], []⟩

def scorer : Scorer := { table, topN := 1 }

def summary : String := "Cards and loans."

theorem built_table : table.Built :=
  have h : Table.make themes [] [] = .ok table := by decide +kernel
  .make h

theorem rank_and_labels_of_tie :
    table.Built ∧
    (∃ order : List Entry,
      order.Perm ((table.entries .themes).filter fun e => 0 < Strategy.occurrences.hits (lowered summary) e.keywords) ∧
      order.Pairwise (RanksBefore .occurrences (lowered summary) (table.entries .themes)) ∧
      scorer.rank summary .themes = order.map (Entry.ranked .occurrences (lowered summary))) ∧
    ((scorer.rank summary .themes).map fun r => lowered r.label).Nodup ∧
    (scorer.thesis summary []).labels .themes =
      ((scorer.rank summary .themes).take (min 1 (scorer.rank summary .themes).length)).map Ranked.label ∧
    (((scorer.thesis summary []).labels .themes).map lowered).Nodup ∧
    ∀ topN, 1 ≤ topN → (scorer.thesis summary []).labels .themes <+:
      (Scorer.thesis { scorer with topN } summary []).labels .themes :=
  ⟨built_table, rank_and_labels scorer built_table summary [] .themes⟩

example : scorer.rank summary .themes = [⟨"Lending", 1⟩, ⟨"Payments", 1⟩] := by cbv

end Tie

end MarketBrief
