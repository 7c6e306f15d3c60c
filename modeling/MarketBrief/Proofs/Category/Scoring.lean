import Mathlib.Algebra.Order.BigOperators.Group.List
import Mathlib.Algebra.Order.Group.Nat
import MarketBrief.Category.Scoring
import MarketBrief.Proofs.Lists

/-!
# Hits of keywords

Under either strategy the hits of some keywords are made of how often each of them counts, and of nothing else.

* `hits_pos_iff`: there is a hit if one of the keywords counts;
* `hits_le_hits`, `hits_congr`, `hits_lt_hits`: keywords that count more often, as often, and where one is lost;
* `hits_append`, `hits_perm`: hits of several lists of keywords are added up, and their order does not matter.
-/

namespace MarketBrief.Category.Strategy

variable (s : Strategy)

theorem hits_pos_iff (text : String) (keywords : List String) :
    0 < s.hits text keywords ↔ ∃ keyword ∈ keywords, 0 < countOccurrences text keyword := by
  cases s with
  | occurrences => exact Lists.sum_pos_iff _ _
  | distinct => simp [hits, List.countP_pos_iff]

theorem hits_append (text : String) (xs ys : List String) :
    s.hits text (xs ++ ys) = s.hits text xs + s.hits text ys := by
  cases s with
  | occurrences => exact (congrArg List.sum List.map_append).trans List.sum_append
  | distinct => exact List.countP_append

theorem hits_perm (text : String) {xs ys : List String} (h : xs.Perm ys) : s.hits text xs = s.hits text ys := by
  cases s with
  | occurrences => exact (h.map (countOccurrences text)).sum_eq
  | distinct => exact h.countP_eq _

/-! ### Two texts -/

section Texts

variable {text other : String} {keywords : List String}

theorem hits_le_hits (h : ∀ keyword ∈ keywords, countOccurrences other keyword ≤ countOccurrences text keyword) :
    s.hits other keywords ≤ s.hits text keywords := by
  cases s with
  | occurrences => exact List.sum_le_sum h
  | distinct =>
    refine List.countP_mono_left fun keyword hkeyword hpos => ?_
    exact decide_eq_true ((of_decide_eq_true hpos).trans_le (h keyword hkeyword))

theorem hits_congr (h : ∀ keyword ∈ keywords, countOccurrences text keyword = countOccurrences other keyword) :
    s.hits text keywords = s.hits other keywords :=
  Nat.le_antisymm (s.hits_le_hits fun keyword hkeyword => (h keyword hkeyword).le)
    (s.hits_le_hits fun keyword hkeyword => (h keyword hkeyword).ge)

/-- Where one keyword is lost and none counts more often, hits are lost. -/
theorem hits_lt_hits (h : ∀ keyword ∈ keywords, countOccurrences other keyword ≤ countOccurrences text keyword)
    {keyword : String} (hkeyword : keyword ∈ keywords) (hlost : countOccurrences other keyword = 0)
    (hfound : 0 < countOccurrences text keyword) : s.hits other keywords < s.hits text keywords := by
  obtain ⟨front, back, rfl⟩ := List.append_of_mem hkeyword
  rw [List.append_cons] at h ⊢
  have hfront := s.hits_le_hits fun k hk => h k (List.mem_append_left _ (List.mem_append_left _ hk))
  have hback := s.hits_le_hits fun k hk => h k (List.mem_append_right _ hk)
  have hnone : ¬ 0 < s.hits other [keyword] := by simp [s.hits_pos_iff, hlost]
  have hone : 0 < s.hits text [keyword] := by simp [s.hits_pos_iff, hfound]
  simp only [s.hits_append]
  omega

end Texts

end MarketBrief.Category.Strategy
