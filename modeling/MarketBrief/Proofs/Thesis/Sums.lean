import Mathlib.Data.List.Nodup
import MarketBrief.Proofs.Category.Table
import MarketBrief.Proofs.Text.Lowered
import MarketBrief.Proofs.Thesis.Blanks

/-!
# Hits of separated texts

A character outside words that no keyword holds parts a text for the search: no place reaches across it, and next to it
words begin and end as they do at the ends of a text. A blank parts a text for the lowercase mapping too.

* `countOccurrences_separated`, `hits_separated`: what counts on both sides of such a character is added up;
* `hitsOf`: the hits of a label in a ranking, and `hitsOf_rank`: they are those of its entry;
* `hits_add_over_separated`: occurrences and rankings of separated texts;
* `Memos.hits_add_over_memos`: two memos, the first of which ends in a capital sigma.
-/

namespace MarketBrief

open Category Text Unicode

/-! ### Keywords -/

namespace Category

section Separated

variable {separator : Char} (hseparator : isAlphanumeric separator = false)

include hseparator

theorem countOccurrences_separated {keyword : String} (h : separator ∉ keyword.toList) (a b : String) :
    countOccurrences (a ++ String.singleton separator ++ b) keyword =
      countOccurrences a keyword + countOccurrences b keyword := by
  have hspans : ¬ SpansAt separator keyword.toList a.toList b.toList := by
    rintro ⟨lead, rest, hkeyword, -, -⟩
    rw [hkeyword] at h
    exact h (List.mem_append_right _ List.mem_cons_self)
  have htext : a ++ String.singleton separator ++ b = String.ofList (a.toList ++ separator :: b.toList) := by
    rw [← String.toList_inj, String.toList_ofList]
    simp
  rw [htext, countOccurrences_append hseparator hspans, String.ofList_toList, String.ofList_toList]

theorem hits_separated {keywords : List String} (h : ∀ keyword ∈ keywords, separator ∉ keyword.toList) (a b : String) :
    Strategy.occurrences.hits (a ++ String.singleton separator ++ b) keywords =
      Strategy.occurrences.hits a keywords + Strategy.occurrences.hits b keywords := by
  induction keywords with
  | nil => rfl
  | cons keyword keywords ih =>
    obtain ⟨hkeyword, hkeywords⟩ := List.forall_mem_cons.1 h
    have hrest := ih hkeywords
    have hfirst := countOccurrences_separated hseparator hkeyword a b
    simp only [Strategy.hits, List.map_cons, List.foldr_cons] at hrest ⊢
    omega

end Separated

end Category

/-! ### Rankings -/

/-- The hits of a label in a ranking; a label that is not in it has none. -/
def hitsOf (label : String) (ranking : List Ranked) : Nat := ((ranking.find? (·.label = label)).map Ranked.hits).getD 0

section Ranking

variable {s : Strategy} {text : String} {entries : List Entry}

theorem hitsOf_rankEntries (hnodup : (entries.map fun e => lowered e.label).Nodup) {e : Entry} (he : e ∈ entries) :
    hitsOf e.label (rankEntries s text entries) = s.hits text e.keywords := by
  have hunique : ∀ e' ∈ entries, e'.label = e.label → e' = e := fun e' he' hlabel =>
    List.inj_on_of_nodup_map hnodup he' he (congrArg lowered hlabel)
  unfold hitsOf
  cases hfind : (rankEntries s text entries).find? (·.label = e.label) with
  | none =>
    by_cases hpos : 0 < s.hits text e.keywords
    · have hmem := mem_rankEntries.2 ⟨e, he, hpos, rfl⟩
      exact absurd (decide_eq_true rfl) (List.find?_eq_none.1 hfind _ hmem)
    · exact (Nat.eq_zero_of_not_pos hpos).symm
  | some r =>
    have hlabel : r.label = e.label := by simpa using List.find?_some hfind
    obtain ⟨e', he', -, rfl⟩ := mem_rankEntries.1 (List.mem_of_find?_eq_some hfind)
    rw [hunique e' he' hlabel]
    rfl

theorem hitsOf_rankEntries_of_absent {label : String} (h : ∀ e ∈ entries, e.label ≠ label) :
    hitsOf label (rankEntries s text entries) = 0 := by
  have hnone : (rankEntries s text entries).find? (·.label = label) = none := by
    refine List.find?_eq_none.2 fun r hr => ?_
    obtain ⟨e, he, -, rfl⟩ := mem_rankEntries.1 hr
    simpa using h e he
  rw [hitsOf, hnone]
  rfl

end Ranking

theorem hitsOf_rank_separated {s : Scorer} (hs : s.table.Built) (hstrategy : s.strategy = .occurrences)
    {separator : Char} (hseparator : isBlank separator = true) {group : Group}
    (h : ∀ e ∈ s.table.entries group, ∀ keyword ∈ e.keywords, separator ∉ keyword.toList) (a b label : String) :
    hitsOf label (s.rank (a ++ String.singleton separator ++ b) group) =
      hitsOf label (s.rank a group) + hitsOf label (s.rank b group) := by
  have hnodup := hs.nodup_labels group
  have hgap : isBlankText (String.singleton separator) = true := by simpa [isBlankText] using hseparator
  simp only [Scorer.rank, lowered_over (by simp) hgap, hstrategy]
  by_cases hlabel : ∃ e ∈ s.table.entries group, e.label = label
  · obtain ⟨e, he, rfl⟩ := hlabel
    simp only [hitsOf_rankEntries hnodup he]
    exact hits_separated (isAlphanumeric_of_isBlank hseparator) (h e he) _ _
  · have habsent : ∀ e ∈ s.table.entries group, e.label ≠ label := fun e he heq => hlabel ⟨e, he, heq⟩
    simp only [hitsOf_rankEntries_of_absent habsent, Nat.add_zero]

/-- **Hits add up.** On both sides of a character that is not alphanumeric and not in the keyword, occurrences are
counted apart. So under the occurrence strategy, and if no keyword of a group holds a line feed, the hits of a label in
two texts on lines of their own are the sum of its hits in each of them. -/
theorem hits_add_over_separated :
    (∀ (a b keyword : String) (separator : Char), isAlphanumeric separator = false → separator ∉ keyword.toList →
      countOccurrences (a ++ String.singleton separator ++ b) keyword =
        countOccurrences a keyword + countOccurrences b keyword) ∧
    (∀ s : Scorer, s.table.Built → s.strategy = .occurrences → ∀ group : Group,
      (∀ e ∈ s.table.entries group, ∀ keyword ∈ e.keywords, '\n' ∉ keyword.toList) → ∀ a b label : String,
        hitsOf label (s.rank (a ++ "\n" ++ b) group) =
          hitsOf label (s.rank a group) + hitsOf label (s.rank b group)) := by
  constructor
  · intro a b keyword separator hseparator h
    exact countOccurrences_separated hseparator h a b
  · intro s hs hstrategy group h a b label
    exact hitsOf_rank_separated hs hstrategy (by decide) h a b label

/-! Two memos, the first of which ends in a capital sigma. -/

namespace Memos

/-- The sigma ends a word, on its own line as before the line feed. -/
def first : String := "LOANS by ΑΣ"

/-- Behind the line feed a word begins. -/
def second : String := "Loans, coins and ΑΣ loans"

def table : Table := ⟨[⟨"Lending", ["loan", "ας"]⟩, ⟨"Crypto", ["coin"]⟩], [], []⟩

def scorer : Scorer := { table }

theorem built_scorer : scorer.table.Built :=
  have h : Table.make table.themes [] [] = .ok table := by decide +kernel
  .make h

theorem hits_add_over_memos :
    (isAlphanumeric ';' = false ∧ ';' ∉ "loan".toList ∧
      countOccurrences ("a loan" ++ String.singleton ';' ++ "loans") "loan" =
        countOccurrences "a loan" "loan" + countOccurrences "loans" "loan") ∧
    scorer.table.Built ∧ scorer.strategy = .occurrences ∧
    (∀ e ∈ scorer.table.entries .themes, ∀ keyword ∈ e.keywords, '\n' ∉ keyword.toList) ∧
    hitsOf "Lending" (scorer.rank (first ++ "\n" ++ second) .themes) =
      hitsOf "Lending" (scorer.rank first .themes) + hitsOf "Lending" (scorer.rank second .themes) :=
  have hmark : isAlphanumeric ';' = false := by decide +kernel
  have hword : ';' ∉ "loan".toList := by decide
  have hfeeds : ∀ e ∈ scorer.table.entries .themes, ∀ keyword ∈ e.keywords, '\n' ∉ keyword.toList := by decide +kernel
  ⟨⟨hmark, hword, hits_add_over_separated.1 _ _ _ _ hmark hword⟩, built_scorer, rfl, hfeeds,
    hits_add_over_separated.2 scorer built_scorer rfl .themes hfeeds first second "Lending"⟩

example : hitsOf "Lending" (scorer.rank (first ++ "\n" ++ second) .themes) = 5 := by cbv

end Memos

end MarketBrief
