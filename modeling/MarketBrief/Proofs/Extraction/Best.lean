import MarketBrief.Proofs.Extraction.Copies
import MarketBrief.Proofs.Overlap.Quotient

/-!
# The best candidates

No overlap exceeds one. So at the threshold one nothing is taken for a duplicate, and the summary is made of the
candidates that rank first.

* `OverlapLaws`: what holds of the overlap of any two texts;
* `rankOf`: how many candidates rank before one of them;
* `isDuplicate_at_one`, `choose_at_one`: at the threshold one the choice is the beginning of the ranking;
* `mem_select_at_one_iff`: the selected are told by their ranks;
* `overlap_and_selection_at_one`: the laws of the overlap, and the selection that follows from them.
-/

namespace MarketBrief.Extraction

open Number Text Token

/-! ### Laws of the overlap -/

/-- What holds of the overlap of two texts, which is the exact quotient, rounded. -/
structure OverlapLaws (a b : String) : Prop where
  rounded : overlapRatio a b = .nearest (overlap a b)
  comm : overlap a b = overlap b a
  ratio_comm : overlapRatio a b = overlapRatio b a
  nonneg : 0 ≤ overlap a b
  le_one : overlap a b ≤ 1
  ratio_isFraction : (overlapRatio a b).isFraction = true
  eq_zero_iff : overlap a b = 0 ↔ Disjoint (tokenSet a) (tokenSet b)
  eq_one_iff : overlap a b = 1 ↔ (tokenSet a).Nonempty ∧ (tokenSet b).Nonempty ∧
    (tokenSet a ⊆ tokenSet b ∨ tokenSet b ⊆ tokenSet a)
  congr : ∀ a' b', tokenSet a' = tokenSet a → tokenSet b' = tokenSet b → overlapRatio a' b' = overlapRatio a b
  bare : overlapRatio (joined " " (tokenize a)) (joined " " (tokenize b)) = overlapRatio a b

theorem overlapLaws (a b : String) : OverlapLaws a b where
  rounded := overlapRatio_eq_nearest a b
  comm := overlap_comm a b
  ratio_comm := overlapRatio_comm a b
  nonneg := overlap_nonneg a b
  le_one := overlap_le_one a b
  ratio_isFraction := isFraction_overlapRatio a b
  eq_zero_iff := overlap_eq_zero_iff a b
  eq_one_iff := overlap_eq_one_iff a b
  congr _ _ ha hb := overlapRatio_congr ha hb
  bare := overlapRatio_congr (tokenSet_bare a) (tokenSet_bare b)

/-! ### Ranks -/

instance (a b : Candidate) : Decidable (a.RanksBefore b) :=
  inferInstanceAs (Decidable (b.score < a.score ∨ (a.score = b.score ∧ a.position < b.position)))

/-- The number of candidates that rank before one of them: that have a higher score, or the same score and a place in
front of it. -/
def rankOf (candidates : List Candidate) (c : Candidate) : Nat := candidates.countP (·.RanksBefore c)

theorem mem_take_ranked_iff {candidates : List Candidate}
    (h : candidates.Pairwise fun a b => a.position < b.position) {n : Nat} {c : Candidate} :
    c ∈ (ranked candidates).take n ↔ c ∈ candidates ∧ rankOf candidates c < n := by
  rw [Lists.mem_take_iff_countP_lt (fun _ _ => Candidate.RanksBefore.asymm) (ranked_pairwise h),
    (ranked_perm candidates).mem_iff, (ranked_perm candidates).countP_eq, rankOf]

/-! ### The threshold one -/

theorem lt_eq_false_of_isFraction {x : Binary64} (h : x.isFraction = true) : Binary64.one.lt x = false := by
  have hone : x.le .one = true := (Bool.and_eq_true_iff.1 h).2
  cases x with
  | nan => rfl
  | infinite n => cases n <;> simp_all [Binary64.one, Binary64.le, Binary64.lt]
  | finite n a =>
    simp only [Binary64.one, Binary64.le, Binary64.lt, decide_eq_true_eq, decide_eq_false_iff_not] at hone ⊢
    omega

section Whole

variable {o : Options} (ho : o.overlapThreshold = .one)

include ho

/-- A duplicate would overlap by more than one. -/
theorem isDuplicate_at_one (chosen : List Candidate) (c : Candidate) : isDuplicate o chosen c = false := by
  rw [isDuplicate, List.any_eq_false]
  intro a _
  rw [ho, lt_eq_false_of_isFraction (isFraction_overlapRatio c.text a.text)]
  exact Bool.false_ne_true

theorem foldl_consider_at_one (chosen l : List Candidate) :
    l.foldl (consider o) chosen = chosen ++ l.take (o.maxSentences - chosen.length) := by
  induction l generalizing chosen with
  | nil => rw [List.foldl_nil, List.take_nil, List.append_nil]
  | cons c l ih =>
    rw [List.foldl_cons, ih]
    rcases consider_cases o chosen c with ⟨hc, hfull | hdup⟩ | ⟨hc, hfree, -⟩
    · rw [hc, Nat.sub_eq_zero_of_le hfull, List.take_zero, List.take_zero]
    · rw [isDuplicate_at_one ho] at hdup
      exact Bool.noConfusion hdup
    · obtain ⟨k, hk⟩ := Nat.exists_eq_add_of_lt hfree
      have hroom : o.maxSentences - chosen.length = k + 1 := by omega
      have hleft : o.maxSentences - (chosen ++ [c]).length = k := by
        rw [List.length_append, List.length_singleton]
        omega
      rw [hc, hroom, hleft, List.take_succ_cons, List.append_assoc, List.singleton_append]

theorem choose_at_one (ranking : List Candidate) : choose o ranking = ranking.take o.maxSentences := by
  rw [choose, foldl_consider_at_one ho, List.nil_append, List.length_nil, Nat.sub_zero]

end Whole

section Selected

variable {e : Extractor} (he : e.options.overlapThreshold = .one) (documents : List Document)

include he

theorem mem_select_at_one_iff {c : Candidate} : c ∈ e.select documents ↔
    c ∈ e.candidates documents ∧ rankOf (e.candidates documents) c < e.options.maxSentences := by
  rw [select_eq_selectFrom, mem_selectFrom, choose_at_one he, mem_take_ranked_iff (candidates_pairwise e documents)]

theorem select_at_one : e.select documents =
    (e.candidates documents).filter (rankOf (e.candidates documents) · < e.options.maxSentences) := by
  have hnumbered := candidates_pairwise e documents
  have hselected : (e.select documents).Pairwise fun a b => a.position < b.position :=
    selectFrom_pairwise e.options hnumbered
  have hbest := hnumbered.filter (rankOf (e.candidates documents) · < e.options.maxSentences)
  have hnodup : ∀ {l : List Candidate}, l.Pairwise (fun a b => a.position < b.position) → l.Nodup := fun h =>
    h.imp fun hlt heq => by simp [heq] at hlt
  refine ((List.perm_ext_iff_of_nodup (hnodup hselected) (hnodup hbest)).2 fun c => ?_).eq_of_pairwise
    (fun a b _ _ hab hba => absurd hba (Nat.lt_asymm hab)) hselected hbest
  rw [mem_select_at_one_iff he, List.mem_filter, decide_eq_true_eq]

end Selected

/-- **Overlap is a matter of sets.** The overlap of two texts is the number of words they share over the number of
words of the text that has fewer, rounded. It is mutual and lies between zero and one; it is zero if the texts share no
word, and one if both have words and all words of one are in the other. It depends on nothing but the two sets of words:
not on what stands between the words, nor on the order and the copies of the parts that a text is joined of. So at the
threshold one no candidate is taken for a duplicate, and the selected are, in reading order, the candidates that fewer
candidates than the limit rank before. -/
theorem overlap_and_selection_at_one :
    (∀ a b, OverlapLaws a b) ∧
    (∀ parts others : List String, (∀ part, part ∈ parts ↔ part ∈ others) →
      ∀ b, overlapRatio (joined " " parts) b = overlapRatio (joined " " others) b) ∧
    ∀ e : Extractor, e.options.overlapThreshold = .one → ∀ documents,
      (∀ chosen c, isDuplicate e.options chosen c = false) ∧
      e.select documents =
        (e.candidates documents).filter (rankOf (e.candidates documents) · < e.options.maxSentences) := by
  refine ⟨overlapLaws, fun parts others h b => ?_, fun e he documents => ⟨?_, select_at_one he documents⟩⟩
  · exact overlapRatio_congr (tokenSet_joined h) rfl
  · exact isDuplicate_at_one he

/-! Two sentences with the same words take both places; below the threshold one the second of them would take none. -/

namespace Refrain

/-- One document, with two sentences that have the same words. -/
def documents : List Document := [⟨"Stripe opened an office. Venmo changed its logo. An office, Stripe opened.", .empty⟩]

def extractor : Extractor := ⟨{ maxSentences := 2, overlapThreshold := .one }, .ofTerms ["office"], by decide +kernel⟩

theorem overlap_and_selection_of_refrain :
    extractor.options.overlapThreshold = .one ∧
    overlap "Stripe opened an office." "An office, Stripe opened." = 1 ∧
    (∀ chosen c, isDuplicate extractor.options chosen c = false) ∧
    (∀ part, part ∈ ["Stripe pays", "Venmo pays"] ↔ part ∈ ["Venmo pays", "Stripe pays", "Venmo pays"]) ∧
    overlapRatio "Stripe pays Venmo pays" "Venmo" = overlapRatio "Venmo pays Stripe pays Venmo pays" "Venmo" ∧
    (extractor.select documents).map Candidate.text = ["Stripe opened an office.", "An office, Stripe opened."] := by
  have hparts : ∀ part, part ∈ ["Stripe pays", "Venmo pays"] ↔ part ∈ ["Venmo pays", "Stripe pays", "Venmo pays"] := by
    simp
  obtain ⟨hlaws, hjoined, hselect⟩ := overlap_and_selection_at_one
  obtain ⟨hduplicate, heq⟩ := hselect extractor rfl documents
  refine ⟨rfl, (hlaws _ _).eq_one_iff.2 ?_, hduplicate, hparts, hjoined _ _ hparts "Venmo", ?_⟩
  · decide +kernel
  · rw [heq]
    decide +kernel

end Refrain

end MarketBrief.Extraction
