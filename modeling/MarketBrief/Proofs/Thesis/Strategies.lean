import MarketBrief.Proofs.Thesis.Sums

/-!
# The two strategies beside each other

One strategy counts every place of every keyword, the other every keyword with a place. So the same entries have hits
under both, and the second gives no more than the first and no more than there are keywords.

* `hits_distinct_le`, `hits_distinct_le_length`, `hits_distinct_eq_iff`: the hits of some keywords under both;
* `mem_labels_rankEntries_iff`: the labels of a ranking;
* `strategies_agree`: the rankings of a group under both;
* `Nested.strategies_agree_on_nested`: keywords of which one holds the other.
-/

namespace MarketBrief

open Category Text

/-! ### Hits -/

namespace Category.Strategy

variable (text : String) (keywords : List String)

theorem hits_distinct_le : Strategy.distinct.hits text keywords ≤ Strategy.occurrences.hits text keywords := by
  induction keywords with
  | nil => exact Nat.le_refl 0
  | cons keyword keywords ih =>
    simp only [hits, List.countP_cons, List.map_cons, List.foldr_cons, decide_eq_true_eq] at ih ⊢
    split <;> omega

theorem hits_distinct_le_length : Strategy.distinct.hits text keywords ≤ keywords.length := List.countP_le_length

/-- Both strategies give the same hits if no keyword has several places. -/
theorem hits_distinct_eq_iff : Strategy.distinct.hits text keywords = Strategy.occurrences.hits text keywords ↔
    ∀ keyword ∈ keywords, 0 < countOccurrences text keyword → countOccurrences text keyword = 1 := by
  induction keywords with
  | nil => exact iff_of_true rfl fun keyword hkeyword => absurd hkeyword List.not_mem_nil
  | cons keyword keywords ih =>
    have hrest := hits_distinct_le text keywords
    rw [List.forall_mem_cons, ← ih]
    simp only [hits, List.countP_cons, List.map_cons, List.foldr_cons, decide_eq_true_eq] at hrest ⊢
    split <;> omega

end Category.Strategy

/-! ### Rankings -/

theorem mem_labels_rankEntries_iff {s : Strategy} {text : String} {entries : List Entry} {label : String} :
    label ∈ (rankEntries s text entries).map Ranked.label ↔
      ∃ e ∈ entries, e.label = label ∧ ∃ keyword ∈ e.keywords, 0 < countOccurrences text keyword := by
  simp only [List.mem_map, mem_rankEntries, s.hits_pos_iff]
  constructor
  · rintro ⟨r, ⟨e, he, hkeyword, rfl⟩, rfl⟩
    exact ⟨e, he, rfl, hkeyword⟩
  · rintro ⟨e, he, rfl, hkeyword⟩
    exact ⟨_, ⟨e, he, hkeyword, rfl⟩, rfl⟩

theorem hits_pos_of_mem_labels {s : Strategy} {text : String} {entries : List Entry}
    (hnodup : (entries.map fun e => lowered e.label).Nodup) {e : Entry} (he : e ∈ entries)
    (h : e.label ∈ (rankEntries s text entries).map Ranked.label) : 0 < s.hits text e.keywords := by
  obtain ⟨d, hd, hlabel, hkeyword⟩ := mem_labels_rankEntries_iff.1 h
  obtain rfl : d = e := List.inj_on_of_nodup_map hnodup hd he (congrArg lowered hlabel)
  exact (s.hits_pos_iff text d.keywords).2 hkeyword

/-- A scorer with the same table that counts by a strategy. -/
def Scorer.counting (s : Scorer) (strategy : Strategy) : Scorer := { s with strategy }

/-- **Strategies.** Whether places are counted or keywords, a ranking holds the same labels. The keywords of an entry in
it that occur are at least one, at most all its keywords, and at most as many as their places; they are as many exactly
if each keyword that occurs does so once. -/
theorem strategies_agree (s : Scorer) (h : s.table.Built) (summary : String) (group : Group) :
    (∀ label, label ∈ ((s.counting .distinct).rank summary group).map Ranked.label ↔
      label ∈ ((s.counting .occurrences).rank summary group).map Ranked.label) ∧
    ∀ e ∈ s.table.entries group, e.label ∈ ((s.counting .distinct).rank summary group).map Ranked.label →
      1 ≤ hitsOf e.label ((s.counting .distinct).rank summary group) ∧
      hitsOf e.label ((s.counting .distinct).rank summary group) ≤
        hitsOf e.label ((s.counting .occurrences).rank summary group) ∧
      hitsOf e.label ((s.counting .distinct).rank summary group) ≤ e.keywords.length ∧
      (hitsOf e.label ((s.counting .distinct).rank summary group) =
          hitsOf e.label ((s.counting .occurrences).rank summary group) ↔
        ∀ keyword ∈ e.keywords, 0 < countOccurrences (lowered summary) keyword →
          countOccurrences (lowered summary) keyword = 1) := by
  have hnodup := h.nodup_labels group
  refine ⟨fun label => mem_labels_rankEntries_iff.trans mem_labels_rankEntries_iff.symm, fun e he hlabel => ?_⟩
  have hdistinct : hitsOf e.label ((s.counting .distinct).rank summary group) =
      Strategy.distinct.hits (lowered summary) e.keywords := hitsOf_rankEntries hnodup he
  have hoccurrences : hitsOf e.label ((s.counting .occurrences).rank summary group) =
      Strategy.occurrences.hits (lowered summary) e.keywords := hitsOf_rankEntries hnodup he
  rw [hdistinct, hoccurrences]
  exact ⟨hits_pos_of_mem_labels hnodup he hlabel, Strategy.hits_distinct_le _ _, Strategy.hits_distinct_le_length _ _,
    Strategy.hits_distinct_eq_iff _ _⟩

/-! Two keywords, the first of which begins the second. -/

namespace Nested

def lending : Entry := ⟨"Lending", ["loan", "loan book"]⟩

def payments : Entry := ⟨"Payments", ["card", "coin"]⟩

/-- In the first entry one keyword holds the other. -/
def table : Table := ⟨[lending, payments], [], []⟩

def scorer : Scorer := { table }

/-- The loan book has both keywords of the first entry, and the loans the first one again. -/
def summary : String := "A loan book, loans and a card."

theorem built_scorer : scorer.table.Built :=
  have h : Table.make table.themes [] [] = .ok table := by decide +kernel
  .make h

theorem strategies_agree_on_nested :
    scorer.table.Built ∧
    (∀ label, label ∈ ((scorer.counting .distinct).rank summary .themes).map Ranked.label ↔
      label ∈ ((scorer.counting .occurrences).rank summary .themes).map Ranked.label) ∧
    (lending ∈ scorer.table.entries .themes ∧
      lending.label ∈ ((scorer.counting .distinct).rank summary .themes).map Ranked.label ∧
      1 ≤ hitsOf lending.label ((scorer.counting .distinct).rank summary .themes) ∧
      hitsOf lending.label ((scorer.counting .distinct).rank summary .themes) ≤
        hitsOf lending.label ((scorer.counting .occurrences).rank summary .themes) ∧
      hitsOf lending.label ((scorer.counting .distinct).rank summary .themes) ≤ lending.keywords.length ∧
      hitsOf lending.label ((scorer.counting .distinct).rank summary .themes) ≠
        hitsOf lending.label ((scorer.counting .occurrences).rank summary .themes)) := by
  obtain ⟨hlabels, hhits⟩ := strategies_agree scorer built_scorer summary .themes
  have hlending : lending ∈ scorer.table.entries .themes := List.mem_cons_self
  have hlabel : lending.label ∈ ((scorer.counting .distinct).rank summary .themes).map Ranked.label :=
    mem_labels_rankEntries_iff.2 ⟨lending, hlending, rfl, "loan", List.mem_cons_self, by decide +kernel⟩
  obtain ⟨hpos, hle, hlength, hiff⟩ := hhits lending hlending hlabel
  have htwice : countOccurrences (lowered summary) "loan" = 2 := by decide +kernel
  refine ⟨built_scorer, hlabels, hlending, hlabel, hpos, hle, hlength, fun heq => ?_⟩
  have honce := hiff.1 heq "loan" List.mem_cons_self (by rw [htwice]; decide)
  exact absurd (htwice.symm.trans honce) (by decide)

end Nested

end MarketBrief
