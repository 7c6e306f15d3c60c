import MarketBrief.Extraction.Selection
import MarketBrief.Proofs.Lists

/-!
# The greedy choice

Candidates are taken in the order of their ranking; the choice grows at its end, by a candidate that finds a free place
and no duplicate, and never shrinks.

* `Candidate.RanksBefore`: the order of the ranking, and `ranked_pairwise`: the ranking has it;
* `consider_cases`: all that considering one more candidate can do;
* `sublist_choose`, `length_choose_le`, `choose_pairwise`: what holds of the chosen;
* `choose_complete`: why a candidate is not chosen;
* `choose_filter`: candidates that are not chosen can be left out beforehand.
-/

namespace MarketBrief.Extraction

open Number

/-! ### The ranking -/

/-- A candidate ranks before another by a higher score, or by its place if the scores are equal. -/
def Candidate.RanksBefore (a b : Candidate) : Prop :=
  b.score < a.score ∨ (a.score = b.score ∧ a.position < b.position)

theorem Candidate.RanksBefore.asymm {a b : Candidate} (h : a.RanksBefore b) : ¬ b.RanksBefore a := by
  unfold Candidate.RanksBefore at *
  omega

theorem ranked_perm (candidates : List Candidate) : (ranked candidates).Perm candidates := List.mergeSort_perm _ _

theorem ranked_pairwise {candidates : List Candidate} (h : candidates.Pairwise fun a b => a.position < b.position) :
    (ranked candidates).Pairwise Candidate.RanksBefore :=
  (Lists.pairwise_mergeSort_desc_stable Candidate.score candidates).imp fun hab =>
    hab.imp_right fun ⟨heq, hsub⟩ => ⟨heq, List.pairwise_iff_forall_sublist.1 h hsub⟩

/-! ### One more candidate -/

section Choosing

variable (o : Options)

theorem consider_cases (chosen : List Candidate) (c : Candidate) :
    (consider o chosen c = chosen ∧ (o.maxSentences ≤ chosen.length ∨ isDuplicate o chosen c = true)) ∨
      (consider o chosen c = chosen ++ [c] ∧ chosen.length < o.maxSentences ∧ isDuplicate o chosen c = false) := by
  unfold consider
  split
  · next h => exact Or.inl ⟨rfl, Or.inl h⟩
  · next h =>
    split
    · next hdup => exact Or.inl ⟨rfl, Or.inr hdup⟩
    · next hdup => exact Or.inr ⟨rfl, Nat.lt_of_not_le h, by simpa using hdup⟩

theorem isDuplicate_eq_true {o : Options} {chosen : List Candidate} {c : Candidate} (h : isDuplicate o chosen c = true) :
    ∃ a ∈ chosen, o.overlapThreshold.lt (overlapRatio c.text a.text) = true := by
  simpa [isDuplicate] using h

theorem isDuplicate_eq_false {o : Options} {chosen : List Candidate} {c : Candidate}
    (h : isDuplicate o chosen c = false) : ∀ a ∈ chosen, o.overlapThreshold.lt (overlapRatio c.text a.text) = false := by
  simpa [isDuplicate] using h

/-! ### A whole ranking -/

theorem foldl_consider_eq_append (chosen l : List Candidate) :
    ∃ more, more.Sublist l ∧ l.foldl (consider o) chosen = chosen ++ more := by
  induction l generalizing chosen with
  | nil => exact ⟨[], List.Sublist.refl _, by simp⟩
  | cons c l ih =>
    obtain ⟨more, hsub, heq⟩ := ih (consider o chosen c)
    rw [List.foldl_cons, heq]
    rcases consider_cases o chosen c with ⟨hc, -⟩ | ⟨hc, -, -⟩
    · exact ⟨more, hsub.cons c, by rw [hc]⟩
    · exact ⟨c :: more, hsub.cons_cons c, by rw [hc, List.append_assoc, List.singleton_append]⟩

theorem foldl_consider_of_full {chosen : List Candidate} (h : o.maxSentences ≤ chosen.length) (l : List Candidate) :
    l.foldl (consider o) chosen = chosen := by
  induction l with
  | nil => rfl
  | cons c l ih =>
    rcases consider_cases o chosen c with ⟨hc, -⟩ | ⟨-, hfree, -⟩
    · rw [List.foldl_cons, hc, ih]
    · omega

theorem sublist_choose (ranking : List Candidate) : (choose o ranking).Sublist ranking := by
  obtain ⟨more, hsub, heq⟩ := foldl_consider_eq_append o [] ranking
  rw [choose, heq, List.nil_append]
  exact hsub

theorem choose_append (l m : List Candidate) : choose o (l ++ m) = m.foldl (consider o) (choose o l) :=
  List.foldl_append

theorem choose_prefix_append (l m : List Candidate) : choose o l <+: choose o (l ++ m) := by
  obtain ⟨more, -, heq⟩ := foldl_consider_eq_append o (choose o l) m
  rw [choose_append, heq]
  exact List.prefix_append _ _

/-- The first candidate of the ranking finds a free place and nothing that it could be a duplicate of. -/
theorem choose_cons (hmax : 0 < o.maxSentences) (c : Candidate) (l : List Candidate) :
    ∃ more, choose o (c :: l) = c :: more := by
  have hfirst : consider o [] c = [c] := by
    rcases consider_cases o [] c with ⟨-, hfull | hdup⟩ | ⟨hc, -, -⟩
    · exact absurd hmax (Nat.not_lt_of_le hfull)
    · simp [isDuplicate] at hdup
    · exact hc
  obtain ⟨more, -, heq⟩ := foldl_consider_eq_append o [c] l
  exact ⟨more, by rw [choose, List.foldl_cons, hfirst, heq, List.singleton_append]⟩

theorem length_choose_le (ranking : List Candidate) : (choose o ranking).length ≤ o.maxSentences := by
  unfold choose
  refine List.foldlRecOn (motive := fun chosen => chosen.length ≤ o.maxSentences) ranking (consider o)
    ?_ fun chosen hlen c _ => ?_
  · simp
  · rcases consider_cases o chosen c with ⟨hc, -⟩ | ⟨hc, hfree, -⟩
    · rwa [hc]
    · rw [hc, List.length_append, List.length_singleton]
      omega

/-- Of two chosen candidates the later one was compared with the earlier one and found different enough. -/
theorem choose_pairwise (ranking : List Candidate) :
    (choose o ranking).Pairwise fun a c => o.overlapThreshold.lt (overlapRatio c.text a.text) = false := by
  unfold choose
  refine List.foldlRecOn ranking (consider o) List.Pairwise.nil fun chosen hpair c _ => ?_
  rcases consider_cases o chosen c with ⟨hc, -⟩ | ⟨hc, -, hdup⟩
  · rwa [hc]
  · rw [hc, List.pairwise_append]
    refine ⟨hpair, List.pairwise_singleton _ _, fun a ha x hx => ?_⟩
    rw [List.mem_singleton.1 hx]
    exact isDuplicate_eq_false hdup a ha

/-- A candidate that is not chosen overlaps too much with one chosen before it, or all places were taken before it. -/
theorem choose_complete {ranking : List Candidate} (h : ranking.Pairwise Candidate.RanksBefore) {c : Candidate}
    (hc : c ∈ ranking) (hnot : c ∉ choose o ranking) :
    (∃ a ∈ choose o ranking, a.RanksBefore c ∧ o.overlapThreshold.lt (overlapRatio c.text a.text) = true) ∨
      ((choose o ranking).length = o.maxSentences ∧ ∀ a ∈ choose o ranking, a.RanksBefore c) := by
  obtain ⟨front, rest, rfl⟩ := List.append_of_mem hc
  have hbefore : ∀ a ∈ choose o front, a.RanksBefore c := fun a ha =>
    (List.pairwise_append.1 h).2.2 a ((sublist_choose o front).subset ha) c (by simp)
  have hstep : choose o (front ++ c :: rest) = rest.foldl (consider o) (consider o (choose o front) c) :=
    choose_append o front (c :: rest)
  rcases consider_cases o (choose o front) c with ⟨hc, hfull | hdup⟩ | ⟨hc, -, -⟩
  · rw [hc, foldl_consider_of_full o hfull] at hstep
    rw [hstep]
    exact Or.inr ⟨Nat.le_antisymm (length_choose_le o front) hfull, hbefore⟩
  · obtain ⟨a, ha, hlt⟩ := isDuplicate_eq_true hdup
    exact Or.inl ⟨a, (choose_prefix_append o front (c :: rest)).subset ha, hbefore a ha, hlt⟩
  · obtain ⟨more, -, heq⟩ := foldl_consider_eq_append o (choose o front ++ [c]) rest
    rw [hc, heq] at hstep
    exact absurd (by simp [hstep]) hnot

theorem foldl_consider_filter {keep : Candidate → Bool} (chosen l : List Candidate)
    (h : ∀ a ∈ l.foldl (consider o) chosen, keep a = true) :
    (l.filter keep).foldl (consider o) chosen = l.foldl (consider o) chosen := by
  induction l generalizing chosen with
  | nil => rfl
  | cons c l ih =>
    rw [List.foldl_cons] at h ⊢
    rcases consider_cases o chosen c with ⟨hc, -⟩ | ⟨hc, -, -⟩
    · rw [hc] at h ⊢
      by_cases hk : keep c = true
      · rw [List.filter_cons_of_pos hk, List.foldl_cons, hc, ih chosen h]
      · rw [List.filter_cons_of_neg hk, ih chosen h]
    · obtain ⟨more, -, heq⟩ := foldl_consider_eq_append o (chosen ++ [c]) l
      have hk : keep c = true := h c (by simp [hc, heq])
      rw [List.filter_cons_of_pos hk, List.foldl_cons, ih _ h]

/-- The choice stays the same when candidates are left out that it does not hold: they took no place. -/
theorem choose_filter {keep : Candidate → Bool} (ranking : List Candidate)
    (h : ∀ a ∈ choose o ranking, keep a = true) : choose o (ranking.filter keep) = choose o ranking :=
  foldl_consider_filter o [] ranking h

end Choosing

end MarketBrief.Extraction
