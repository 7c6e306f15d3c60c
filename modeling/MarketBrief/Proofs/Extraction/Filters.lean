import MarketBrief.Proofs.Extraction.Candidate

/-!
# Which sentences become candidates

A filter looks at one sentence, or at all of them: fragments are left out if there is a sentence that is none. Only what
passes is numbered.

* `Passes`: a sentence passes the filters that look at it alone;
* `HoldsWhole`: some document has such a sentence that is no fragment;
* `textsOf`: the candidates that come from one document; `HoldsAll`: all that pass are among the candidates;
* `candidates_reading`: the candidates of several documents, what each comes from and which sentences are among them.
-/

namespace MarketBrief.Extraction

open MarketBrief.Lists

/-! ### Filters -/

/-- The sentence passes the filters that look at it alone, as far as they are set. -/
structure Passes (o : Options) (sentence : String) : Prop where
  minWords : o.minWords ≤ Sentence.wordCount sentence
  terminal : o.requireTerminal = true → Sentence.hasTerminalMark sentence = true
  promotional : o.dropPromotional = true → Article.isPromotional sentence = false
  glued : o.dropGlued = true → Sentence.hasGluedWords sentence = false

theorem qualifies_iff {o : Options} {sentence : String} : qualifies o sentence = true ↔ Passes o sentence := by
  simp only [qualifies, Bool.and_eq_true, decide_eq_true_eq, Bool.not_eq_true', Bool.and_eq_false_imp,
    Bool.not_eq_false']
  exact ⟨fun ⟨⟨⟨hwords, hterminal⟩, hpromotional⟩, hglued⟩ => ⟨hwords, hterminal, hpromotional, hglued⟩,
    fun ⟨hwords, hterminal, hpromotional, hglued⟩ => ⟨⟨⟨hwords, hterminal⟩, hpromotional⟩, hglued⟩⟩

instance (o : Options) (sentence : String) : Decidable (Passes o sentence) := decidable_of_iff _ qualifies_iff

/-- One of the documents has a sentence that passes and is no fragment. -/
def HoldsWhole (o : Options) (documents : List Document) : Prop :=
  ∃ d ∈ documents, ∃ s ∈ Sentence.split d.text, Passes o s ∧ Sentence.isFragment s = false

/-- The test for blank documents only saves work. -/
theorem qualifying_eq_filter (o : Options) (d : Document) :
    qualifying o d = (Sentence.split d.text).filter (Passes o ·) := by
  have hpasses : (Sentence.split d.text).filter (qualifies o) = (Sentence.split d.text).filter (Passes o ·) :=
    List.filter_congr fun s _ => Bool.eq_iff_iff.2 (qualifies_iff.trans decide_eq_true_iff.symm)
  unfold qualifying
  split
  · next hblank => rw [Sentence.split_of_isBlankText hblank, List.filter_nil]
  · exact hpasses

/-! ### Sentences with the places of their documents -/

section Located

variable {o : Options} {documents : List Document}

theorem mem_located_iff {i : Nat} {s : String} :
    (i, s) ∈ located o documents ↔ ∃ d, documents[i]? = some d ∧ s ∈ Sentence.split d.text ∧ Passes o s := by
  simp only [located, List.mem_flatMap, List.mem_map, Prod.exists, Prod.mk.injEq, List.mk_mem_zipIdx_iff_getElem?,
    qualifying_eq_filter, List.mem_filter, decide_eq_true_eq]
  constructor
  · rintro ⟨d, j, hd, t, ht, rfl, rfl⟩
    exact ⟨d, hd, ht⟩
  · rintro ⟨d, hd, hs⟩
    exact ⟨d, i, hd, s, hs, rfl, rfl⟩

theorem located_pairwise : (located o documents).Pairwise fun a b => a.1 ≤ b.1 := by
  have hplaces : (documents.zipIdx.map Prod.snd).Pairwise (· ≤ ·) := by
    rw [List.zipIdx_map_snd]
    exact List.pairwise_le_range'
  refine List.pairwise_flatMap.2
    ⟨fun x _ => List.pairwise_map.2 ?_, (List.pairwise_map.1 hplaces).imp fun hle a ha b hb => ?_⟩
  · exact List.pairwise_of_forall fun _ _ => Nat.le_refl _
  · obtain ⟨s, -, rfl⟩ := List.mem_map.1 ha
    obtain ⟨t, -, rfl⟩ := List.mem_map.1 hb
    exact hle

theorem map_filter_located {i : Nat} {d : Document} (h : documents[i]? = some d) :
    ((located o documents).filter (·.1 = i)).map Prod.snd = (Sentence.split d.text).filter (Passes o ·) := by
  have hother : ∀ (b : Document) (j : Nat), j ≠ 0 + i →
      (((qualifying o b).map (j, ·)).filter (·.1 = i)).map Prod.snd = [] := by
    intro b j hj
    rw [List.filter_eq_nil_iff.2, List.map_nil]
    intro x hx
    obtain ⟨s, -, rfl⟩ := List.mem_map.1 hx
    simpa using hj
  rw [located, List.filter_flatMap, List.map_flatMap, flatMap_zipIdx_of_getElem? h hother, ← qualifying_eq_filter]
  simp [List.filter_map, Function.comp_def]

theorem not_holdsWhole_iff : ¬ HoldsWhole o documents ↔
    ∀ d ∈ documents, ∀ s ∈ Sentence.split d.text, Passes o s → Sentence.isFragment s = true := by
  simp [HoldsWhole]

theorem exists_whole_iff :
    (∃ x ∈ located o documents, Sentence.isFragment x.2 = false) ↔ HoldsWhole o documents := by
  constructor
  · rintro ⟨⟨i, s⟩, hmem, hwhole⟩
    obtain ⟨d, hd, hs, hpasses⟩ := mem_located_iff.1 hmem
    exact ⟨d, List.mem_of_getElem? hd, s, hs, hpasses, hwhole⟩
  · rintro ⟨d, hd, s, hs, hpasses, hwhole⟩
    obtain ⟨i, hi⟩ := List.getElem?_of_mem hd
    exact ⟨(i, s), mem_located_iff.2 ⟨d, hi, hs, hpasses⟩, hwhole⟩

/-- Fragments are left out if it is so wished and something else remains. -/
theorem withoutFragments_of_holdsWhole (hdrop : o.dropFragments = true) (h : HoldsWhole o documents) :
    withoutFragments o (located o documents) = (located o documents).filter (!Sentence.isFragment ·.2) := by
  obtain ⟨x, hx, hwhole⟩ := exists_whole_iff.2 h
  have hne : (located o documents).filter (!Sentence.isFragment ·.2) ≠ [] :=
    List.ne_nil_of_mem (List.mem_filter.2 ⟨hx, by rw [hwhole]; rfl⟩)
  rw [withoutFragments, if_pos (by simpa [hdrop] using hne)]

theorem withoutFragments_eq_self (h : ¬ (o.dropFragments = true ∧ HoldsWhole o documents)) :
    withoutFragments o (located o documents) = located o documents := by
  rw [withoutFragments, if_neg]
  rw [Bool.and_eq_true, not_and]
  intro hdrop hne
  have hnone : ¬ HoldsWhole o documents := fun hwhole => h ⟨hdrop, hwhole⟩
  refine hnone (exists_whole_iff.1 ?_)
  simpa using hne

/-- The filter for fragments leaves something where there is something. -/
theorem withoutFragments_eq_nil_iff {sentences : List (Nat × String)} :
    withoutFragments o sentences = [] ↔ sentences = [] := by
  rw [withoutFragments]
  split
  · next h =>
    have hne : sentences.filter (!Sentence.isFragment ·.2) ≠ [] := by simpa using (Bool.and_eq_true_iff.1 h).2
    exact iff_of_false hne fun hnil => hne (by rw [hnil]; rfl)
  · exact Iff.rfl

end Located

/-! ### Candidates -/

/-- The texts of the candidates that come from the document with a place. -/
def textsOf (place : Nat) (candidates : List Candidate) : List String :=
  (candidates.filter (·.documentIndex = place)).map Candidate.text

section Candidates

variable (e : Extractor) (documents : List Document)

theorem score_of_mem_candidates {c : Candidate} (h : c ∈ e.candidates documents) :
    c.score = e.lexicon.score c.text := by
  obtain ⟨x, -, rfl⟩ := List.mem_map.1 h
  rfl

theorem mem_withoutFragments_of_mem_candidates {c : Candidate} (h : c ∈ e.candidates documents) :
    (c.documentIndex, c.text) ∈ withoutFragments e.options (located e.options documents) := by
  rw [← map_located_candidates]
  exact List.mem_map_of_mem h

theorem mem_located_of_mem_candidates {c : Candidate} (h : c ∈ e.candidates documents) :
    (c.documentIndex, c.text) ∈ located e.options documents :=
  (withoutFragments_sublist e.options _).subset (mem_withoutFragments_of_mem_candidates e documents h)

theorem textsOf_eq_map_filter (place : Nat) :
    textsOf place (e.candidates documents) =
      ((withoutFragments e.options (located e.options documents)).filter (·.1 = place)).map Prod.snd := by
  rw [← map_located_candidates, List.filter_map, List.map_map]
  rfl

theorem candidates_documentIndex_pairwise :
    (e.candidates documents).Pairwise fun a b => a.documentIndex ≤ b.documentIndex := by
  have hpairs := located_pairwise.sublist (withoutFragments_sublist e.options (located e.options documents))
  rw [← map_located_candidates, List.pairwise_map] at hpairs
  exact hpairs

/-- Of each document all sentences that pass are among the candidates, in their order. -/
def HoldsAll (o : Options) (documents : List Document) (candidates : List Candidate) : Prop :=
  ∀ place d, documents[place]? = some d →
    textsOf place candidates = (Sentence.split d.text).filter (Passes o ·)

/-- Where there is a whole sentence, whole sentences remain. -/
theorem textsOf_candidates_of_holdsWhole (hdrop : e.options.dropFragments = true)
    (hwhole : HoldsWhole e.options documents) {place : Nat} {d : Document} (hd : documents[place]? = some d) :
    textsOf place (e.candidates documents) =
      (Sentence.split d.text).filter fun s => Passes e.options s ∧ Sentence.isFragment s = false := by
  have hswap : ((located e.options documents).filter fun x => !Sentence.isFragment x.2).filter (·.1 = place) =
      ((located e.options documents).filter (·.1 = place)).filter ((fun s => !Sentence.isFragment s) ∘ Prod.snd) := by
    rw [List.filter_filter, List.filter_filter]
    exact List.filter_congr fun x _ => Bool.and_comm _ _
  rw [textsOf_eq_map_filter, withoutFragments_of_holdsWhole hdrop hwhole, hswap, ← List.filter_map,
    map_filter_located hd, List.filter_filter]
  refine List.filter_congr fun s _ => ?_
  cases Sentence.isFragment s <;> simp

/-- Else all that pass remain. -/
theorem candidates_holdsAll (h : ¬ (e.options.dropFragments = true ∧ HoldsWhole e.options documents)) :
    HoldsAll e.options documents (e.candidates documents) := by
  intro place d hd
  rw [textsOf_eq_map_filter, withoutFragments_eq_self h, map_filter_located hd]

theorem textsOf_candidates_sublist {place : Nat} {d : Document} (hd : documents[place]? = some d) :
    (textsOf place (e.candidates documents)).Sublist (Sentence.split d.text) := by
  by_cases h : e.options.dropFragments = true ∧ HoldsWhole e.options documents
  · rw [textsOf_candidates_of_holdsWhole e documents h.1 h.2 hd]
    exact List.filter_sublist
  · rw [candidates_holdsAll e documents h place d hd]
    exact List.filter_sublist

theorem count_textsOf_candidates {place : Nat} {d : Document} (hd : documents[place]? = some d) {s : String}
    (hpasses : Passes e.options s) (hwhole : Sentence.isFragment s = false) :
    (textsOf place (e.candidates documents)).count s = (Sentence.split d.text).count s := by
  by_cases h : e.options.dropFragments = true ∧ HoldsWhole e.options documents
  · rw [textsOf_candidates_of_holdsWhole e documents h.1 h.2 hd]
    exact List.count_filter (decide_eq_true ⟨hpasses, hwhole⟩)
  · rw [candidates_holdsAll e documents h place d hd]
    exact List.count_filter (decide_eq_true hpasses)

theorem isFragment_of_mem_candidates (hdrop : e.options.dropFragments = true)
    (hwhole : HoldsWhole e.options documents) {c : Candidate} (h : c ∈ e.candidates documents) :
    Sentence.isFragment c.text = false := by
  have hmem := mem_withoutFragments_of_mem_candidates e documents h
  rw [withoutFragments_of_holdsWhole hdrop hwhole, List.mem_filter] at hmem
  simpa using hmem.2

theorem candidates_eq_nil_iff :
    e.candidates documents = [] ↔ ∀ d ∈ documents, ∀ s ∈ Sentence.split d.text, ¬ Passes e.options s := by
  rw [← List.map_eq_nil_iff (f := fun c : Candidate => (c.documentIndex, c.text)), map_located_candidates,
    withoutFragments_eq_nil_iff, List.eq_nil_iff_forall_not_mem]
  constructor
  · intro hnone d hd s hs hpasses
    obtain ⟨place, hplace⟩ := List.getElem?_of_mem hd
    exact hnone (place, s) (mem_located_iff.2 ⟨d, hplace, hs, hpasses⟩)
  · rintro hnone ⟨place, s⟩ hmem
    obtain ⟨d, hd, hs, hpasses⟩ := mem_located_iff.1 hmem
    exact hnone d (List.mem_of_getElem? hd) s hs hpasses

end Candidates

/-- **What the candidates are.** They are numbered from zero in reading order: document by document, and within a
document in the order of its sentences. Each is a sentence of its document that passes the filters, with its score, and
a sentence that passes and is no fragment is there as often as its document has it. If fragments are to be left out,
there is none among the candidates, unless every sentence that passes is one; then all remain, as they do without this
filter. So there are candidates whenever a sentence passes. -/
theorem candidates_reading (e : Extractor) (documents : List Document) :
    (e.candidates documents).map Candidate.position = List.range (e.candidates documents).length ∧
    (e.candidates documents).Pairwise (fun a b => a.documentIndex ≤ b.documentIndex) ∧
    (∀ c ∈ e.candidates documents, c.score = e.lexicon.score c.text ∧
      ∃ d, documents[c.documentIndex]? = some d ∧ c.text ∈ Sentence.split d.text ∧ Passes e.options c.text) ∧
    (∀ place d, documents[place]? = some d →
      (textsOf place (e.candidates documents)).Sublist (Sentence.split d.text) ∧
      ∀ s, Passes e.options s → Sentence.isFragment s = false →
        (textsOf place (e.candidates documents)).count s = (Sentence.split d.text).count s) ∧
    (e.options.dropFragments = true →
      (HoldsWhole e.options documents → ∀ c ∈ e.candidates documents, Sentence.isFragment c.text = false) ∧
      ((∀ d ∈ documents, ∀ s ∈ Sentence.split d.text, Passes e.options s → Sentence.isFragment s = true) →
        HoldsAll e.options documents (e.candidates documents))) ∧
    (e.options.dropFragments = false → HoldsAll e.options documents (e.candidates documents)) ∧
    (e.candidates documents = [] ↔ ∀ d ∈ documents, ∀ s ∈ Sentence.split d.text, ¬ Passes e.options s) := by
  refine ⟨map_position_candidates e documents, candidates_documentIndex_pairwise e documents, fun c hc => ?_,
    fun place d hd => ?_, fun hdrop => ⟨fun hwhole c => ?_, fun hfragments => ?_⟩, fun hkeep => ?_,
    candidates_eq_nil_iff e documents⟩
  · exact ⟨score_of_mem_candidates e documents hc, mem_located_iff.1 (mem_located_of_mem_candidates e documents hc)⟩
  · exact ⟨textsOf_candidates_sublist e documents hd, fun s => count_textsOf_candidates e documents hd⟩
  · exact isFragment_of_mem_candidates e documents hdrop hwhole
  · exact candidates_holdsAll e documents fun h => not_holdsWhole_iff.2 hfragments h.2
  · refine candidates_holdsAll e documents fun h => ?_
    rw [hkeep] at h
    exact Bool.noConfusion h.1

end MarketBrief.Extraction
