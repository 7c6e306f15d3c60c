import Mathlib.Data.List.Pairwise
import MarketBrief.Proofs.Extraction.Candidate
import MarketBrief.Proofs.Extraction.Choice
import MarketBrief.Proofs.Overlap
import MarketBrief.Proofs.Sentence.Resplit
import MarketBrief.Proofs.Text.Joined

/-!
# What a summary holds, and what it leaves out

The choice is made in the order of the ranking and handed out in reading order.

* `selectFrom`: the selection from given candidates;
* `select_sound`: the selected are candidates in reading order, not too many, and no two of them overlap too much;
* `split_summary`: the summary of one document is split into the sentences that were selected for it;
* `summary_eq_empty_iff`: when there is nothing to say;
* `trimmed_summary`: a summary has no blanks at its ends;
* `select_complete`: a candidate is left out for a duplicate before it or because the summary is full.
-/

namespace MarketBrief.Extraction

open Number Text

def selectFrom (o : Options) (candidates : List Candidate) : List Candidate :=
  (choose o (ranked candidates)).mergeSort fun a b => a.position ≤ b.position

theorem select_eq_selectFrom (e : Extractor) (documents : List Document) :
    e.select documents = selectFrom e.options (e.candidates documents) := rfl

/-! ### The selected candidates -/

section Selected

variable (o : Options) {candidates : List Candidate}

theorem mem_selectFrom {c : Candidate} : c ∈ selectFrom o candidates ↔ c ∈ choose o (ranked candidates) :=
  List.mem_mergeSort

theorem length_selectFrom : (selectFrom o candidates).length = (choose o (ranked candidates)).length :=
  List.length_mergeSort _

theorem selectFrom_subperm : (selectFrom o candidates).Subperm candidates :=
  ((List.mergeSort_perm _ _).subperm.trans (sublist_choose o _).subperm).trans (ranked_perm candidates).subperm

theorem selectFrom_pairwise (h : candidates.Pairwise fun a b => a.position < b.position) :
    (selectFrom o candidates).Pairwise fun a b => a.position < b.position := by
  have hnodup : (candidates.map Candidate.position).Nodup :=
    List.pairwise_map.2 (h.imp fun hlt => Nat.ne_of_lt hlt)
  have hne : (selectFrom o candidates).Pairwise fun a b => a.position ≠ b.position := by
    obtain ⟨l, hperm, hsub⟩ : (selectFrom o candidates).Subperm candidates := selectFrom_subperm o
    exact List.pairwise_map.1 ((hperm.map Candidate.position).nodup_iff.1 (hnodup.sublist (hsub.map _)))
  have hle : (selectFrom o candidates).Pairwise fun a b => a.position ≤ b.position :=
    Lists.pairwise_mergeSort_asc Candidate.position _
  exact (hle.and hne).imp fun ⟨hle, hne⟩ => Nat.lt_of_le_of_ne hle hne

theorem selectFrom_sublist (h : candidates.Pairwise fun a b => a.position < b.position) :
    (selectFrom o candidates).Sublist candidates := by
  have : Std.Antisymm fun a b : Candidate => a.position < b.position :=
    ⟨fun _ _ hab hba => absurd hba (Nat.lt_asymm hab)⟩
  exact List.sublist_of_subperm_of_pairwise (selectFrom_subperm o) (selectFrom_pairwise o h) h

/-- A candidate was compared only with those chosen before it; since the overlap is mutual this settles both orders. -/
theorem selectFrom_overlap (ho : o.overlapThreshold.isFraction = true) {a b : Candidate}
    (ha : a ∈ selectFrom o candidates) (hb : b ∈ selectFrom o candidates) (hne : a ≠ b) :
    (overlapRatio a.text b.text).le o.overlapThreshold = true := by
  have hsymm : Std.Symm fun a c : Candidate => o.overlapThreshold.lt (overlapRatio c.text a.text) = false :=
    ⟨fun a c h => by rwa [overlapRatio_comm]⟩
  rw [mem_selectFrom] at ha hb
  have hlt := (choose_pairwise o (ranked candidates)).forall hb ha hne.symm
  exact Binary64.le_of_lt_eq_false (ne_nan_of_isFraction ho) (overlapRatio_ne_nan _ _) hlt

end Selected

/-- The summary is made of different candidates in reading order. -/
theorem select_sound (e : Extractor) (documents : List Document) :
    (e.select documents).Sublist (e.candidates documents) ∧
      (e.select documents).Pairwise (fun a b => a.position < b.position) ∧
      (e.select documents).length ≤ e.options.maxSentences ∧
      (∀ a ∈ e.select documents, ∀ b ∈ e.select documents, a ≠ b →
        (overlapRatio a.text b.text).le e.options.overlapThreshold = true) ∧
      e.summary documents = " ".intercalate ((e.select documents).map Candidate.text) := by
  have hnumbered := candidates_pairwise e documents
  rw [select_eq_selectFrom]
  refine ⟨selectFrom_sublist _ hnumbered, selectFrom_pairwise _ hnumbered, ?_, ?_, joined_eq_intercalate _ _⟩
  · rw [length_selectFrom]
    exact length_choose_le _ _
  · intro a ha b hb hne
    exact selectFrom_overlap _ e.threshold_isFraction ha hb hne

section Selected

variable {e : Extractor} {documents : List Document}

theorem mem_candidates_of_mem_select {c : Candidate} (h : c ∈ e.select documents) : c ∈ e.candidates documents :=
  (selectFrom_sublist e.options (candidates_pairwise e documents)).subset h

/-- Candidates that are ranked and chosen as they stand are selected as they stand. -/
theorem select_eq_of_choose {candidates : List Candidate} (hcandidates : e.candidates documents = candidates)
    (hranked : ranked candidates = candidates) (hchoose : choose e.options candidates = candidates) :
    e.select documents = candidates := by
  have hnumbered := candidates_pairwise e documents
  rw [hcandidates] at hnumbered
  rw [Extractor.select, hcandidates, hranked, hchoose]
  exact List.mergeSort_of_pairwise (hnumbered.imp fun hlt => decide_eq_true hlt.le)

end Selected

/-! ### Splitting a summary -/

theorem map_text_select_sublist (e : Extractor) (documents : List Document) :
    ((e.select documents).map Candidate.text).Sublist (documents.flatMap fun d => Sentence.split d.text) :=
  ((selectFrom_sublist e.options (candidates_pairwise e documents)).map _).trans
    (map_text_candidates_sublist e documents)

/-- **A summary of one document can be taken apart.** Whichever of its sentences were selected, their joined texts are
split into them. -/
theorem split_summary (e : Extractor) (d : Document) :
    Sentence.split (e.summary [d]) = (e.select [d]).map Candidate.text := by
  have hsub := map_text_select_sublist e [d]
  rw [List.flatMap_singleton] at hsub
  exact Sentence.split_joined_of_sublist hsub

/-! ### The candidates left out -/

section LeftOut

variable (o : Options) {candidates : List Candidate} (h : candidates.Pairwise fun a b => a.position < b.position)

include h

theorem selectFrom_complete {c : Candidate} (hc : c ∈ candidates) (hnot : c ∉ selectFrom o candidates) :
    (∃ a ∈ selectFrom o candidates, a.RanksBefore c ∧ o.overlapThreshold.lt (overlapRatio c.text a.text) = true) ∨
      ((selectFrom o candidates).length = o.maxSentences ∧ ∀ a ∈ selectFrom o candidates, a.RanksBefore c) := by
  simp only [mem_selectFrom, length_selectFrom] at hnot ⊢
  exact choose_complete o (ranked_pairwise h) ((ranked_perm candidates).mem_iff.2 hc) hnot

theorem exists_first_mem_selectFrom (hmax : 0 < o.maxSentences) (hne : candidates ≠ []) :
    ∃ c ∈ selectFrom o candidates, ∀ b ∈ candidates, b ≠ c → c.RanksBefore b := by
  have hrankedNe : ranked candidates ≠ [] := by
    intro hnil
    exact hne (List.nil_perm.1 (hnil ▸ ranked_perm candidates))
  obtain ⟨c, rest, hranked⟩ := List.exists_cons_of_ne_nil hrankedNe
  obtain ⟨more, hchoose⟩ := choose_cons o hmax c rest
  refine ⟨c, (mem_selectFrom o).2 (by simp [hranked, hchoose]), fun b hb hbc => ?_⟩
  have hbefore := ranked_pairwise h
  rw [hranked, List.pairwise_cons] at hbefore
  have hmem : b ∈ c :: rest := hranked ▸ (ranked_perm candidates).mem_iff.2 hb
  exact hbefore.1 b ((List.mem_cons.1 hmem).resolve_left hbc)

theorem ranked_filter (keep : Candidate → Bool) : ranked (candidates.filter keep) = (ranked candidates).filter keep := by
  have hperm : (ranked (candidates.filter keep)).Perm ((ranked candidates).filter keep) :=
    (ranked_perm _).trans ((ranked_perm candidates).filter keep).symm
  exact hperm.eq_of_pairwise (fun a b _ _ hab hba => absurd hba hab.asymm) (ranked_pairwise (h.filter keep))
    ((ranked_pairwise h).filter keep)

theorem selectFrom_filter {keep : Candidate → Bool} (hkeep : ∀ a ∈ selectFrom o candidates, keep a = true) :
    selectFrom o (candidates.filter keep) = selectFrom o candidates := by
  unfold selectFrom
  rw [ranked_filter h, choose_filter o _ fun a ha => hkeep a ((mem_selectFrom o).2 ha)]

end LeftOut

theorem summary_eq_empty_iff (e : Extractor) (documents : List Document) :
    e.summary documents = "" ↔ e.options.maxSentences = 0 ∨ e.candidates documents = [] := by
  have hnumbered := candidates_pairwise e documents
  constructor
  · intro hempty
    by_contra hnot
    obtain ⟨hmax, hne⟩ := not_or.1 hnot
    obtain ⟨c, hc, -⟩ := exists_first_mem_selectFrom e.options hnumbered (Nat.pos_of_ne_zero hmax) hne
    have htext := text_ne_empty_of_mem_candidates (mem_candidates_of_mem_select hc)
    exact joined_ne_empty (List.mem_map_of_mem hc) htext hempty
  · intro hnone
    have hselect : e.select documents = [] := by
      rcases hnone with hmax | hnil
      · refine List.eq_nil_of_length_eq_zero (Nat.eq_zero_of_le_zero (hmax ▸ ?_))
        exact (length_selectFrom _).trans_le (length_choose_le _ _)
      · exact List.subperm_nil.1 (hnil ▸ selectFrom_subperm e.options)
    rw [Extractor.summary, hselect]
    rfl

/-- A summary begins and ends with a sentence. -/
theorem trimmed_summary (e : Extractor) (documents : List Document) :
    trimmed (e.summary documents) = e.summary documents := by
  refine trimmed_joined fun text htext => ?_
  obtain ⟨c, hc, rfl⟩ := List.mem_map.1 htext
  have hcandidate := mem_candidates_of_mem_select hc
  exact ⟨text_ne_empty_of_mem_candidates hcandidate, trimmed_of_mem_candidates hcandidate⟩

/-- Whatever is left out is accounted for: it repeats something better, or it came too late. What is left out could as
well not have been there. -/
theorem select_complete (e : Extractor) (documents : List Document) :
    (∀ c ∈ e.candidates documents, c ∉ e.select documents →
      (∃ a ∈ e.select documents, a.RanksBefore c ∧
          e.options.overlapThreshold.lt (overlapRatio c.text a.text) = true) ∨
        ((e.select documents).length = e.options.maxSentences ∧ ∀ a ∈ e.select documents, a.RanksBefore c)) ∧
      (0 < e.options.maxSentences → e.candidates documents ≠ [] →
        ∃ c ∈ e.select documents, ∀ b ∈ e.candidates documents, b ≠ c → c.RanksBefore b) ∧
      (∀ keep : Candidate → Bool, (∀ a ∈ e.select documents, keep a = true) →
        selectFrom e.options ((e.candidates documents).filter keep) = e.select documents) ∧
      (e.summary documents = "" ↔ e.options.maxSentences = 0 ∨ e.candidates documents = []) := by
  have hnumbered := candidates_pairwise e documents
  refine ⟨?_, ?_, ?_, summary_eq_empty_iff e documents⟩
  · intro c hc hnot
    exact selectFrom_complete e.options hnumbered hc hnot
  · intro hmax hne
    exact exists_first_mem_selectFrom e.options hnumbered hmax hne
  · intro keep hkeep
    exact selectFrom_filter e.options hnumbered hkeep

end MarketBrief.Extraction
