import Mathlib.Data.List.Perm.Subperm
import MarketBrief.Proofs.Extraction.Copies
import MarketBrief.Proofs.Extraction.Selection

/-!
# Longer and shorter summaries

The limit only says where the choice along the ranking stops: what is chosen under a limit is the beginning of what is
chosen under a higher one.

* `Options.limited`, `Extractor.limited`: the same with another limit;
* `take_consider`: one more candidate under two limits; `choose_limited`: a whole ranking under two limits;
* `select_limited_mono`: a higher limit takes nothing away, and each further place adds at most one sentence;
* `Dividers.select_limited_mono_of_dividers`: two sentences under a limit that they do not reach.
-/

namespace MarketBrief.Extraction

def Options.limited (o : Options) (limit : Nat) : Options := { o with maxSentences := limit }

def Extractor.limited (e : Extractor) (limit : Nat) : Extractor :=
  { e with options := e.options.limited limit, threshold_isFraction := e.threshold_isFraction }

theorem limited_self (e : Extractor) : e.limited e.options.maxSentences = e := rfl

theorem candidates_limited (e : Extractor) (limit : Nat) (documents : List Document) :
    (e.limited limit).candidates documents = e.candidates documents := rfl

/-! ### The choice under two limits -/

section Choosing

variable (o : Options) {k m : Nat} (hkm : k ≤ m)

include hkm

/-- What a candidate adds beyond the lower limit is not seen under it. -/
theorem take_consider (chosen : List Candidate) (c : Candidate) :
    (consider (o.limited m) chosen c).take k = consider (o.limited k) (chosen.take k) c := by
  by_cases hfull : k ≤ chosen.length
  · have hlower : consider (o.limited k) (chosen.take k) c = chosen.take k := by
      have hlimit : (o.limited k).maxSentences ≤ (chosen.take k).length := by
        show k ≤ (chosen.take k).length
        rw [List.length_take]
        omega
      rw [consider, if_pos hlimit]
    rcases consider_cases (o.limited m) chosen c with ⟨hc, -⟩ | ⟨hc, -, -⟩
    · rw [hc, hlower]
    · rw [hc, hlower, List.take_append_of_le_length hfull]
  · -- both limits leave room, so only duplicates matter
    have hfree : ¬ m ≤ chosen.length := by omega
    rw [List.take_of_length_le (by omega : chosen.length ≤ k)]
    show (if m ≤ chosen.length then chosen else if isDuplicate o chosen c then chosen else chosen ++ [c]).take k =
      if k ≤ chosen.length then chosen else if isDuplicate o chosen c then chosen else chosen ++ [c]
    rw [if_neg hfree, if_neg hfull]
    apply List.take_of_length_le
    by_cases hdup : isDuplicate o chosen c = true
    · rw [if_pos hdup]
      omega
    · rw [if_neg hdup, List.length_append, List.length_singleton]
      omega

theorem take_foldl_consider (chosen l : List Candidate) :
    (l.foldl (consider (o.limited m)) chosen).take k = l.foldl (consider (o.limited k)) (chosen.take k) := by
  induction l generalizing chosen with
  | nil => rfl
  | cons c l ih => rw [List.foldl_cons, List.foldl_cons, ih, take_consider o hkm]

theorem choose_limited (ranking : List Candidate) :
    choose (o.limited k) ranking = (choose (o.limited m) ranking).take k := by
  rw [choose, choose, take_foldl_consider o hkm, List.take_nil]

end Choosing

/-! ### The selection under two limits -/

section Selected

variable (e : Extractor) (documents : List Document) {k m : Nat} (hkm : k ≤ m)

include hkm

theorem length_select_limited :
    ((e.limited k).select documents).length = min k ((e.limited m).select documents).length := by
  simp only [select_eq_selectFrom, length_selectFrom, candidates_limited]
  show (choose (e.options.limited k) _).length = min k (choose (e.options.limited m) _).length
  rw [choose_limited e.options hkm, List.length_take]

theorem select_limited_sublist : ((e.limited k).select documents).Sublist ((e.limited m).select documents) := by
  have hnumbered := candidates_pairwise e documents
  have hsubset : ((e.limited k).select documents).Subset ((e.limited m).select documents) := by
    intro c hc
    rw [select_eq_selectFrom, mem_selectFrom, candidates_limited] at hc ⊢
    have htake : c ∈ (choose (e.options.limited m) (ranked (e.candidates documents))).take k := by
      rw [← choose_limited e.options hkm]
      exact hc
    exact List.mem_of_mem_take htake
  have hlower := selectFrom_pairwise (e.options.limited k) hnumbered
  have hupper := selectFrom_pairwise (e.options.limited m) hnumbered
  have hnodup : ((e.limited k).select documents).Nodup := hlower.imp fun hlt heq => by simp [heq] at hlt
  have : Std.Antisymm fun a b : Candidate => a.position < b.position :=
    ⟨fun _ _ hab hba => absurd hba (Nat.lt_asymm hab)⟩
  exact List.sublist_of_subperm_of_pairwise (List.subperm_of_subset hnodup hsubset) hlower hupper

theorem select_limited_of_not_full (h : ((e.limited k).select documents).length < k) :
    (e.limited m).select documents = (e.limited k).select documents := by
  have hlength := length_select_limited e documents hkm
  exact ((select_limited_sublist e documents hkm).eq_of_length (by omega)).symm

end Selected

/-- **The limit only cuts off.** Under a higher limit all sentences are selected again; each further place adds at most
one, and once a summary does not reach its limit, a higher limit changes nothing. -/
theorem select_limited_mono (e : Extractor) (documents : List Document) :
    (∀ k m, k ≤ m → ((e.limited k).select documents).Sublist ((e.limited m).select documents)) ∧
    (∀ k, ((e.limited (k + 1)).select documents).length ≤ ((e.limited k).select documents).length + 1) ∧
    (∀ k m, k ≤ m → ((e.limited k).select documents).length < k →
      (e.limited m).select documents = (e.limited k).select documents ∧
      (e.limited m).summary documents = (e.limited k).summary documents) := by
  refine ⟨fun k m hkm => select_limited_sublist e documents hkm, fun k => ?_, fun k m hkm hfree => ?_⟩
  · have hlength := length_select_limited e documents (Nat.le_add_right k 1)
    have hlimit := (select_sound (e.limited (k + 1)) documents).2.2.1
    have hmax : (e.limited (k + 1)).options.maxSentences = k + 1 := rfl
    omega
  · have hselect := select_limited_of_not_full e documents hkm hfree
    exact ⟨hselect, by rw [Extractor.summary, hselect, Extractor.summary]⟩

theorem Dividers.select_limited_mono_of_dividers :
    1 ≤ 7 ∧ ((extractor.limited 1).select documents).Sublist ((extractor.limited 7).select documents) ∧
    ((extractor.limited 2).select documents).length ≤ ((extractor.limited 1).select documents).length + 1 ∧
    7 ≤ 9 ∧ ((extractor.limited 7).select documents).length < 7 ∧
      (extractor.limited 9).select documents = (extractor.limited 7).select documents ∧
      (extractor.limited 9).summary documents = (extractor.limited 7).summary documents := by
  have hsame : extractor.limited 7 = extractor := limited_self extractor
  have hfree : ((extractor.limited 7).select documents).length < 7 := by
    rw [hsame, select_documents]
    decide
  obtain ⟨hsublist, hstep, hstays⟩ := select_limited_mono extractor documents
  exact ⟨by decide, hsublist 1 7 (by decide), hstep 1, by decide, hfree, hstays 7 9 (by decide) hfree⟩

end MarketBrief.Extraction
