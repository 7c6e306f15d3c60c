import MarketBrief.Proofs.Category.Occurrences
import MarketBrief.Proofs.Extraction.Selection
import MarketBrief.Proofs.Thesis.Ranking
import MarketBrief.Report.Basic

/-!
# What stands behind the labels of a report

A report on extracted sentences ranks the summary as a whole, sentences joined by single spaces. A sentence need not end
in a mark, so the end of one and the beginning of the next can read as a keyword.

* `generate_grounded`: behind a label stands a keyword of one selected sentence, or one that spans the seam of two;
* `not_grounded_in_one_sentence`: the seams cannot be left out of this.
-/

namespace MarketBrief

open Category Extraction Text

def Extraction.Extractor.loweredSelection (e : Extractor) (documents : List Document) : List String :=
  (e.select documents).map fun c => lowered c.text

theorem lowered_summary (e : Extractor) (documents : List Document) :
    lowered (e.summary documents) = joined " " (e.loweredSelection documents) := by
  rw [Extractor.summary, lowered_joined, List.map_map]
  rfl

theorem countOccurrences_summary {e : Extractor} {documents : List Document} {keyword : String}
    (h : ¬ SpansSeam keyword (e.loweredSelection documents)) :
    countOccurrences (lowered (e.summary documents)) keyword =
      ((e.select documents).map fun c => countOccurrences (lowered c.text) keyword).foldr (· + ·) 0 := by
  rw [lowered_summary, countOccurrences_joined keyword _ h, Extractor.loweredSelection, List.map_map]
  rfl

theorem exists_sentence_or_seam {e : Extractor} {documents : List Document} {keyword : String}
    (h : 0 < countOccurrences (lowered (e.summary documents)) keyword) :
    (∃ c ∈ e.select documents, 0 < countOccurrences (lowered c.text) keyword) ∨
      SpansSeam keyword (e.loweredSelection documents) := by
  by_cases hseam : SpansSeam keyword (e.loweredSelection documents)
  · exact Or.inr hseam
  · rw [countOccurrences_summary hseam] at h
    exact Or.inl ((Lists.sum_pos_iff _ _).1 h)

/-- Every label of a report on extracted sentences has a keyword that counts in one of the sentences or spans a seam.
Keywords that span no seam count in the summary as often as in its sentences. -/
theorem generate_grounded (e : Extractor) (s : Scorer) (topic : String) (documents : List Document) :
    ∃ report, Generator.generate ⟨.extractive e, s⟩ topic documents = .ok report ∧
      (∀ group, ∀ label ∈ report.thesis.labels group, ∃ entry ∈ s.table.entries group, entry.label = label ∧
        ∃ keyword ∈ entry.keywords, 0 < countOccurrences (lowered report.summary) keyword ∧
          ((∃ c ∈ e.select documents, 0 < countOccurrences (lowered c.text) keyword) ∨
            SpansSeam keyword (e.loweredSelection documents))) ∧
      ∀ keyword, ¬ SpansSeam keyword (e.loweredSelection documents) →
        countOccurrences (lowered report.summary) keyword =
          ((e.select documents).map fun c => countOccurrences (lowered c.text) keyword).foldr (· + ·) 0 := by
  refine ⟨_, rfl, fun group label hlabel => ?_, fun keyword hseam => countOccurrences_summary hseam⟩
  obtain ⟨entry, hentry, heq, keyword, hkeyword, hpos⟩ := exists_entry_of_mem_labels hlabel
  exact ⟨entry, hentry, heq, keyword, hkeyword, hpos, exists_sentence_or_seam hpos⟩

/-! ### A label that no sentence speaks for -/

namespace Seam

/-- Two texts of one sentence each, without marks. -/
def documents : List Document := [⟨"Most clients are digital", .empty⟩, ⟨"Bank fees grow fast", .empty⟩]

def extractor : Extractor := ⟨{}, .ofTerms [], by decide +kernel⟩

def scorer : Scorer := { table := ⟨[⟨"Neobanking", ["digital bank"]⟩], [], []⟩ }

def first : Candidate := ⟨"Most clients are digital", 0, 0, 0⟩

def second : Candidate := ⟨"Bank fees grow fast", 1, 1, 0⟩

theorem select_documents : extractor.select documents = [first, second] := by
  have hcandidates : extractor.candidates documents = [first, second] := by decide +kernel
  have hranked : ranked [first, second] = [first, second] := List.mergeSort_of_pairwise (by simp [first, second])
  exact select_eq_of_choose hcandidates hranked (by decide +kernel)

theorem topLabels_summary : scorer.topLabels (extractor.summary documents) .themes = ["Neobanking"] := by
  have hsummary : extractor.summary documents = "Most clients are digital Bank fees grow fast" := by
    rw [Extractor.summary, select_documents]
    decide +kernel
  have hhits : Strategy.occurrences.hits (lowered "Most clients are digital Bank fees grow fast") ["digital bank"] = 1 := by
    decide +kernel
  rw [hsummary]
  simp [Scorer.topLabels, Scorer.rank, rankEntries, scorer, Table.entries, hhits]

end Seam

/-- The keyword `digital bank` is found between two sentences of which neither holds it. -/
theorem not_grounded_in_one_sentence :
    ¬ ∀ (e : Extractor) (s : Scorer) (topic : String) (documents : List Document) (report : Report),
      Generator.generate ⟨.extractive e, s⟩ topic documents = .ok report →
        ∀ group, ∀ label ∈ report.thesis.labels group, ∃ entry ∈ s.table.entries group, entry.label = label ∧
          ∃ keyword ∈ entry.keywords, ∃ c ∈ e.select documents, 0 < countOccurrences (lowered c.text) keyword := by
  intro hall
  have hlabel : "Neobanking" ∈
      (Seam.scorer.thesis (Seam.extractor.summary Seam.documents) Seam.documents).labels .themes := by
    rw [labels_thesis, Seam.topLabels_summary]
    exact List.mem_singleton_self _
  obtain ⟨entry, hentry, -, keyword, hkeyword, c, hc, hpos⟩ :=
    hall Seam.extractor Seam.scorer "Neobanks" Seam.documents _ rfl .themes "Neobanking" hlabel
  obtain rfl : entry = ⟨"Neobanking", ["digital bank"]⟩ := List.mem_singleton.1 hentry
  obtain rfl : keyword = "digital bank" := List.mem_singleton.1 hkeyword
  have hnone : ∀ c ∈ Seam.extractor.select Seam.documents, countOccurrences (lowered c.text) "digital bank" = 0 := by
    rw [Seam.select_documents]
    decide +kernel
  exact absurd (hnone c hc) (Nat.ne_of_gt hpos)

end MarketBrief
