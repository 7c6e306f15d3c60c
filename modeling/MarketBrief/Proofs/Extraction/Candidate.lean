import Mathlib.Data.List.Flatten
import MarketBrief.Extraction.Candidate
import MarketBrief.Proofs.Sentence.Layout

/-!
# Candidates are numbered sentences

* `map_position_candidates`, `candidates_pairwise`: the numbers of the candidates are their places;
* `map_text_candidates_sublist`: their texts are sentences of the documents, in reading order;
* `text_ne_empty_of_mem_candidates`, `trimmed_of_mem_candidates`: no candidate is empty or has blanks at its ends.
-/

namespace MarketBrief.Extraction

open Text

/-! ### Numbers -/

section Numbers

variable (e : Extractor) (documents : List Document)

theorem map_position_candidates :
    (e.candidates documents).map Candidate.position = List.range (e.candidates documents).length := by
  simp [Extractor.candidates, Function.comp_def, List.range_eq_range']

theorem candidates_pairwise : (e.candidates documents).Pairwise fun a b => a.position < b.position := by
  have h : ((e.candidates documents).map Candidate.position).Pairwise (· < ·) := by
    rw [map_position_candidates]
    exact List.pairwise_lt_range
  exact List.pairwise_map.1 h

end Numbers

/-! ### Texts -/

theorem qualifying_sublist (o : Options) (d : Document) : (qualifying o d).Sublist (Sentence.split d.text) := by
  unfold qualifying
  split
  · exact List.nil_sublist _
  · exact List.filter_sublist

theorem map_snd_located (o : Options) (documents : List Document) :
    (located o documents).map Prod.snd = documents.flatMap (qualifying o) := by
  have hpiece : ∀ x : Document × Nat, ((qualifying o x.1).map (x.2, ·)).map Prod.snd = qualifying o x.1 := fun x => by
    rw [List.map_map]
    exact List.map_id _
  calc (located o documents).map Prod.snd
      = documents.zipIdx.flatMap fun x => qualifying o x.1 := by
        rw [located, List.map_flatMap]
        exact List.flatMap_congr fun x _ => hpiece x
    _ = (documents.zipIdx.map Prod.fst).flatMap (qualifying o) := (List.flatMap_map ..).symm
    _ = documents.flatMap (qualifying o) := by rw [List.zipIdx_map_fst]

theorem withoutFragments_sublist (o : Options) (sentences : List (Nat × String)) :
    (withoutFragments o sentences).Sublist sentences := by
  simp only [withoutFragments]
  split
  · exact List.filter_sublist
  · exact List.Sublist.refl _

theorem map_located_candidates (e : Extractor) (documents : List Document) :
    (e.candidates documents).map (fun c => (c.documentIndex, c.text)) =
      withoutFragments e.options (located e.options documents) := by
  rw [Extractor.candidates, List.map_map]
  conv_rhs => rw [← List.zipIdx_map_fst 0 (withoutFragments e.options (located e.options documents))]
  rfl

theorem map_text_candidates (e : Extractor) (documents : List Document) :
    (e.candidates documents).map Candidate.text =
      (withoutFragments e.options (located e.options documents)).map Prod.snd := by
  rw [← map_located_candidates, List.map_map]
  rfl

theorem map_text_candidates_sublist (e : Extractor) (documents : List Document) :
    ((e.candidates documents).map Candidate.text).Sublist (documents.flatMap fun d => Sentence.split d.text) := by
  have hlocated := (withoutFragments_sublist e.options (located e.options documents)).map Prod.snd
  rw [← map_text_candidates, map_snd_located] at hlocated
  exact hlocated.trans (List.Sublist.flatMap_right documents fun d _ => qualifying_sublist e.options d)

/-- A candidate is a sentence of one of the documents. -/
theorem exists_mem_split_of_mem_candidates {e : Extractor} {documents : List Document} {c : Candidate}
    (h : c ∈ e.candidates documents) : ∃ d ∈ documents, c.text ∈ Sentence.split d.text :=
  List.mem_flatMap.1 ((map_text_candidates_sublist e documents).subset (List.mem_map_of_mem h))

theorem text_ne_empty_of_mem_candidates {e : Extractor} {documents : List Document} {c : Candidate}
    (h : c ∈ e.candidates documents) : c.text ≠ "" := by
  obtain ⟨d, -, hsplit⟩ := exists_mem_split_of_mem_candidates h
  exact Sentence.ne_empty_of_mem_split hsplit

theorem trimmed_of_mem_candidates {e : Extractor} {documents : List Document} {c : Candidate}
    (h : c ∈ e.candidates documents) : trimmed c.text = c.text := by
  obtain ⟨d, -, hsplit⟩ := exists_mem_split_of_mem_candidates h
  exact Sentence.trimmed_of_mem_split hsplit

end MarketBrief.Extraction
