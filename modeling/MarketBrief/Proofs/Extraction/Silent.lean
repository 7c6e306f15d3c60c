import MarketBrief.Proofs.Extraction.Copies

/-!
# Documents without a sentence that passes

A document none of whose sentences passes the filters adds nothing to a summary, wherever it stands among the others:
only the places of the documents behind it are counted on.

* `Candidate.relocate`: a candidate of a document at another place; `candidates_relocate`, `select_relocate`,
  `summary_relocate`: what a summary is made of does not depend on the places of the documents;
* `Insertion`: documents, and others inserted between them; `newPlace_length`, `newPlace_append`: where a document is
  then; `sublist_iff_exists_insertion`: every longer list arises so;
* `IsSilent`: no sentence passes; `located_all`: inserted documents that are silent only count on;
* `silent_documents_leave_no_trace`: candidates, selection and summary with and without them.
-/

namespace MarketBrief.Extraction

/-! ### Other places -/

/-- The same sentence of a document at another place. -/
def Candidate.relocate (place : Nat → Nat) (c : Candidate) : Candidate :=
  { c with documentIndex := place c.documentIndex }

section Relocate

variable (place : Nat → Nat) (o : Options)

theorem ranked_map_relocate (candidates : List Candidate) :
    ranked (candidates.map (Candidate.relocate place)) = (ranked candidates).map (Candidate.relocate place) := by
  symm
  exact List.map_mergeSort fun _ _ _ _ => rfl

theorem consider_map_relocate (chosen : List Candidate) (c : Candidate) :
    consider o (chosen.map (Candidate.relocate place)) (c.relocate place) =
      (consider o chosen c).map (Candidate.relocate place) := by
  have hduplicate :
      isDuplicate o (chosen.map (Candidate.relocate place)) (c.relocate place) = isDuplicate o chosen c := by
    rw [isDuplicate, List.any_map]
    rfl
  rw [consider, consider, hduplicate, List.length_map]
  split
  · rfl
  · split
    · rfl
    · rw [List.map_append, List.map_singleton]

theorem foldl_consider_map_relocate (chosen ranking : List Candidate) :
    (ranking.map (Candidate.relocate place)).foldl (consider o) (chosen.map (Candidate.relocate place)) =
      (ranking.foldl (consider o) chosen).map (Candidate.relocate place) := by
  induction ranking generalizing chosen with
  | nil => rfl
  | cons c ranking ih => rw [List.map_cons, List.foldl_cons, consider_map_relocate, ih, List.foldl_cons]

theorem choose_map_relocate (ranking : List Candidate) :
    choose o (ranking.map (Candidate.relocate place)) = (choose o ranking).map (Candidate.relocate place) :=
  foldl_consider_map_relocate place o [] ranking

theorem selectFrom_map_relocate (candidates : List Candidate) :
    selectFrom o (candidates.map (Candidate.relocate place)) =
      (selectFrom o candidates).map (Candidate.relocate place) := by
  rw [selectFrom, ranked_map_relocate, choose_map_relocate]
  symm
  exact List.map_mergeSort fun _ _ _ _ => rfl

theorem withoutFragments_map_relocate (sentences : List (Nat × String)) :
    withoutFragments o (sentences.map (Prod.map place id)) =
      (withoutFragments o sentences).map (Prod.map place id) := by
  have hwhole : (sentences.map (Prod.map place id)).filter (!Sentence.isFragment ·.2) =
      (sentences.filter (!Sentence.isFragment ·.2)).map (Prod.map place id) := List.filter_map
  rw [withoutFragments, withoutFragments, hwhole, List.isEmpty_map]
  split <;> rfl

end Relocate

section Relocated

variable {place : Nat → Nat} {e : Extractor} {documents others : List Document}
  (h : located e.options others = (located e.options documents).map (Prod.map place id))

include h

theorem candidates_relocate : e.candidates others = (e.candidates documents).map (Candidate.relocate place) := by
  rw [Extractor.candidates, h, withoutFragments_map_relocate, List.zipIdx_map, List.map_map, Extractor.candidates,
    List.map_map]
  rfl

theorem select_relocate : e.select others = (e.select documents).map (Candidate.relocate place) := by
  rw [select_eq_selectFrom, candidates_relocate h, selectFrom_map_relocate, select_eq_selectFrom]

theorem summary_relocate : e.summary others = e.summary documents := by
  rw [Extractor.summary, select_relocate h, List.map_map, Extractor.summary]
  rfl

end Relocated

/-! ### Documents between documents -/

/-- A list of documents, and others to be inserted into it. -/
structure Insertion where
  /-- Each document, and what is inserted in front of it. -/
  steps : List (List Document × Document)
  /-- What is inserted behind all documents. -/
  behind : List Document

/-- The documents of some steps, each behind what is inserted in front of it. -/
def interleaved (steps : List (List Document × Document)) : List Document :=
  steps.flatMap fun step => step.1 ++ [step.2]

namespace Insertion

def documents (x : Insertion) : List Document := x.steps.map Prod.snd

def inserted (x : Insertion) : List Document := x.steps.flatMap Prod.fst ++ x.behind

def all (x : Insertion) : List Document := interleaved x.steps ++ x.behind

/-- How many documents are inserted somewhere before a document, which is told by its place among the documents. -/
def countBefore (x : Insertion) (place : Nat) : Nat := ((x.steps.take (place + 1)).flatMap Prod.fst).length

/-- The place among all documents of one of the documents. -/
def newPlace (x : Insertion) (place : Nat) : Nat := place + x.countBefore place

end Insertion

section Steps

variable (steps rest : List (List Document × Document)) (front : List Document) (d : Document) (behind : List Document)

theorem interleaved_append : interleaved (steps ++ rest) = interleaved steps ++ interleaved rest := List.flatMap_append

theorem interleaved_cons : interleaved ((front, d) :: rest) = front ++ d :: interleaved rest :=
  (List.append_cons ..).symm

theorem length_interleaved : (interleaved steps).length = steps.length + (steps.flatMap Prod.fst).length := by
  induction steps with
  | nil => rfl
  | cons step steps ih =>
    rw [interleaved_cons, List.flatMap_cons, List.length_append, List.length_append, List.length_cons, ih,
      List.length_cons]
    omega

/-- A document has moved to behind all that stands in front of it. -/
theorem newPlace_length :
    Insertion.newPlace ⟨steps ++ (front, d) :: rest, behind⟩ steps.length = (interleaved steps ++ front).length := by
  have htake : (steps ++ (front, d) :: rest).take (steps.length + 1) = steps ++ [(front, d)] := by
    rw [List.take_length_add_append]
    rfl
  rw [Insertion.newPlace, Insertion.countBefore, htake, List.flatMap_append, List.length_append, List.length_append,
    length_interleaved, List.flatMap_singleton, Nat.add_assoc]

/-- What stands behind a document does not move it. -/
theorem newPlace_append {place : Nat} (h : place < steps.length) :
    Insertion.newPlace ⟨steps ++ rest, behind⟩ place = Insertion.newPlace ⟨steps, behind⟩ place := by
  rw [Insertion.newPlace, Insertion.newPlace, Insertion.countBefore, Insertion.countBefore,
    List.take_append_of_le_length h]

end Steps

theorem Insertion.getElem?_all (x : Insertion) {place : Nat} {d : Document} (h : x.documents[place]? = some d) :
    x.all[x.newPlace place]? = some d := by
  obtain ⟨steps, behind⟩ := x
  rw [Insertion.documents, List.getElem?_map, Option.map_eq_some_iff] at h
  obtain ⟨⟨front, d⟩, hstep, rfl⟩ := h
  obtain ⟨hlt, hget⟩ := List.getElem?_eq_some_iff.1 hstep
  obtain ⟨before, rest, rfl, rfl⟩ : ∃ before rest, steps = before ++ (front, d) :: rest ∧ before.length = place := by
    refine ⟨steps.take place, steps.drop (place + 1), ?_, List.length_take_of_le hlt.le⟩
    rw [← hget, ← List.drop_eq_getElem_cons hlt, List.take_append_drop]
  rw [Insertion.all, newPlace_length, interleaved_append, interleaved_cons, ← List.append_assoc, List.append_assoc,
    List.cons_append, List.getElem?_append_right (Nat.le_refl _), Nat.sub_self]
  rfl

/-- The documents are a part of all documents, and each part of a list is what others are inserted into. -/
theorem sublist_iff_exists_insertion {documents all : List Document} :
    documents.Sublist all ↔ ∃ x : Insertion, x.documents = documents ∧ x.all = all := by
  constructor
  · intro h
    induction h with
    | slnil => exact ⟨⟨[], []⟩, rfl, rfl⟩
    | cons d _ ih =>
      -- one more document in front of the first step, or behind all if there is none
      obtain ⟨⟨steps, behind⟩, rfl, rfl⟩ := ih
      cases steps with
      | nil => exact ⟨⟨[], d :: behind⟩, rfl, rfl⟩
      | cons step steps => exact ⟨⟨(d :: step.1, step.2) :: steps, behind⟩, rfl, rfl⟩
    | cons_cons d _ ih =>
      obtain ⟨⟨steps, behind⟩, rfl, rfl⟩ := ih
      exact ⟨⟨([], d) :: steps, behind⟩, rfl, rfl⟩
  · rintro ⟨⟨steps, behind⟩, rfl, rfl⟩
    refine List.Sublist.trans ?_ (List.sublist_append_left _ behind)
    induction steps with
    | nil => exact List.Sublist.refl _
    | cons step steps ih =>
      rw [interleaved_cons]
      exact (ih.cons_cons step.2).trans (List.sublist_append_right _ _)

/-! ### Silent documents -/

/-- No sentence of the document passes the filters that look at one sentence. -/
def IsSilent (o : Options) (d : Document) : Prop := ∀ s ∈ Sentence.split d.text, ¬ Passes o s

instance (o : Options) (d : Document) : Decidable (IsSilent o d) :=
  inferInstanceAs (Decidable (∀ s ∈ Sentence.split d.text, ¬ Passes o s))

theorem isSilent_of_isBlank (o : Options) {d : Document} (h : d.isBlank = true) : IsSilent o d := by
  rw [IsSilent, Sentence.split_of_isBlankText h]
  exact List.forall_mem_nil _

theorem qualifying_eq_nil_of_isSilent {o : Options} {d : Document} (h : IsSilent o d) : qualifying o d = [] := by
  rw [qualifying_eq_filter, List.filter_eq_nil_iff]
  exact fun s hs hpasses => h s hs (of_decide_eq_true hpasses)

section Located

variable (o : Options)

theorem located_concat (documents : List Document) (d : Document) :
    located o (documents ++ [d]) = located o documents ++ (qualifying o d).map (documents.length, ·) := by
  rw [located, List.zipIdx_append, List.flatMap_append, Nat.zero_add, List.zipIdx_singleton, List.flatMap_singleton,
    located]

theorem located_append_of_isSilent (documents : List Document) {more : List Document}
    (h : ∀ d ∈ more, IsSilent o d) : located o (documents ++ more) = located o documents := by
  unfold located
  rw [List.zipIdx_append, List.flatMap_append, List.append_right_eq_self, List.flatMap_eq_nil_iff]
  rintro ⟨d, i⟩ hd
  change (qualifying o d).map (i, ·) = []
  rw [qualifying_eq_nil_of_isSilent (h d (List.fst_mem_of_mem_zipIdx hd)), List.map_nil]

/-- A further step leaves the documents before it where they are, and its own document stands behind all others. -/
theorem located_interleaved {steps : List (List Document × Document)}
    (h : ∀ step ∈ steps, ∀ d ∈ step.1, IsSilent o d) (behind : List Document) :
    located o (interleaved steps) =
      (located o (steps.map Prod.snd)).map (Prod.map (Insertion.newPlace ⟨steps, behind⟩) id) := by
  induction steps using List.reverseRecOn with
  | nil => rfl
  | append_singleton steps step ih =>
    obtain ⟨front, d⟩ := step
    obtain ⟨hsteps, hfront⟩ := List.forall_mem_append.1 h
    have hbefore : ∀ x ∈ located o (steps.map Prod.snd),
        Prod.map (Insertion.newPlace ⟨steps ++ [(front, d)], behind⟩) id x =
          Prod.map (Insertion.newPlace ⟨steps, behind⟩) id x := by
      rintro ⟨place, s⟩ hmem
      obtain ⟨b, hb, -⟩ := mem_located_iff.1 hmem
      have hlt := (List.getElem?_eq_some_iff.1 hb).1
      rw [List.length_map] at hlt
      rw [Prod.map_apply, Prod.map_apply, newPlace_append _ _ _ hlt]
    calc located o (interleaved (steps ++ [(front, d)]))
        = located o ((interleaved steps ++ front) ++ [d]) := by
          rw [interleaved_append, interleaved_cons, List.append_assoc]
          rfl
      _ = located o (interleaved steps) ++ (qualifying o d).map ((interleaved steps ++ front).length, ·) := by
          rw [located_concat, located_append_of_isSilent o _ (hfront _ List.mem_cons_self)]
      _ = (located o (steps.map Prod.snd ++ [d])).map
            (Prod.map (Insertion.newPlace ⟨steps ++ [(front, d)], behind⟩) id) := by
          rw [located_concat, List.map_append, List.map_congr_left hbefore, ← ih hsteps, List.map_map,
            List.length_map, ← newPlace_length steps [] front d behind]
          rfl
      _ = _ := by rw [List.map_append, List.map_singleton]

theorem located_all {x : Insertion} (h : ∀ d ∈ x.inserted, IsSilent o d) :
    located o x.all = (located o x.documents).map (Prod.map x.newPlace id) := by
  obtain ⟨hsteps, hbehind⟩ := List.forall_mem_append.1 h
  have hfronts : ∀ step ∈ x.steps, ∀ d ∈ step.1, IsSilent o d := fun step hstep d hd =>
    hsteps d (List.mem_flatMap.2 ⟨step, hstep, hd⟩)
  rw [Insertion.all, located_append_of_isSilent o _ hbehind, located_interleaved o hfronts x.behind]
  rfl

end Located

/-- **Silent documents leave no trace.** Let documents be inserted anywhere into a list, none of whose sentences passes
the filters that look at one sentence, as with blank documents, whose sentences are not even looked for. Then candidates
and selected sentences keep their texts, positions and scores, and the place of each document only moves on by the
number of documents inserted before it, to where it stands now. The summary is the same. -/
theorem silent_documents_leave_no_trace (e : Extractor) (x : Insertion)
    (h : ∀ d ∈ x.inserted, IsSilent e.options d) :
    e.candidates x.all = (e.candidates x.documents).map (Candidate.relocate x.newPlace) ∧
    e.select x.all = (e.select x.documents).map (Candidate.relocate x.newPlace) ∧
    e.summary x.all = e.summary x.documents ∧
    (∀ place d, x.documents[place]? = some d → x.all[x.newPlace place]? = some d) ∧
    (∀ d, d.isBlank = true → IsSilent e.options d) ∧
    ∀ d, qualifying e.options d = (Sentence.split d.text).filter (Passes e.options ·) := by
  have hlocated := located_all e.options h
  exact ⟨candidates_relocate hlocated, select_relocate hlocated, summary_relocate hlocated, fun _ _ => x.getElem?_all,
    fun _ => isSilent_of_isBlank e.options, qualifying_eq_filter e.options⟩

/-! A blank document and an offer before the first of two documents, a scrap between them, and no text behind. -/

namespace Quiet

/-- Two documents, and four that are silent. -/
def insertion : Insertion where
  steps :=
    [([⟨" \n ", .empty⟩, ⟨"Sign up now. Click here for more news.", .empty⟩], ⟨"Lenders raised rates again.", .empty⟩),
      ([⟨"by A. Reporter", .empty⟩], ⟨"fees at two banks fell. The fees of two banks fell too.", .empty⟩)]
  behind := [⟨"", .empty⟩]

def extractor : Extractor := ⟨{}, .ofTerms ["fees"], isFraction_default⟩

theorem silent_documents_leave_no_trace_of_scraps :
    (∀ d ∈ insertion.inserted, IsSilent extractor.options d) ∧
    (insertion.documents.length = 2 ∧ insertion.all.length = 6 ∧
      insertion.newPlace 0 = 2 ∧ insertion.newPlace 1 = 4) ∧
    (extractor.candidates insertion.all =
      (extractor.candidates insertion.documents).map (Candidate.relocate insertion.newPlace)) ∧
    (extractor.candidates insertion.documents).map Candidate.documentIndex = [0, 1] ∧
    (extractor.candidates insertion.all).map Candidate.documentIndex = [2, 4] ∧
    extractor.select insertion.all =
      (extractor.select insertion.documents).map (Candidate.relocate insertion.newPlace) ∧
    extractor.summary insertion.all = extractor.summary insertion.documents := by
  have hsilent : ∀ d ∈ insertion.inserted, IsSilent extractor.options d := by decide +kernel
  obtain ⟨hcandidates, hselect, hsummary, -⟩ := silent_documents_leave_no_trace extractor insertion hsilent
  exact ⟨hsilent, by decide, hcandidates, by decide +kernel, by decide +kernel, hselect, hsummary⟩

end Quiet

end MarketBrief.Extraction
