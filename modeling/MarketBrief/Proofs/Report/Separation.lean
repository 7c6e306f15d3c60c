import MarketBrief.Proofs.Document.Sources
import MarketBrief.Proofs.Thesis.Ranking
import MarketBrief.Report.Basic

/-!
# Texts and metadata apart

A document is a text and metadata, and a report reads each of them for something else.

* `candidates_congr`, `summary_congr`: extraction reads nothing but texts;
* `Report.findings`, `Generator.Agree`: what a report says of its summary, and two runs that agree in an observation;
* `texts_and_metadata_apart`: metadata leave the findings as they are, and texts leave the sources as they are.
-/

namespace MarketBrief

open Category Extraction

/-! ### Extraction from equal texts -/

namespace Extraction

section Texts

variable {documents others : List Document} (h : documents.map Document.text = others.map Document.text)

include h

theorem located_congr (o : Options) : located o documents = located o others := by
  have htexts : ∀ ds : List Document, located o ds =
      (ds.map Document.text).zipIdx.flatMap fun (text, i) => (qualifying o ⟨text, .empty⟩).map (i, ·) := by
    -- which sentences qualify is read off the text, so any metadata will do
    intro ds
    rw [List.zipIdx_map, List.flatMap_map]
    rfl
  rw [htexts, htexts, h]

theorem candidates_congr (e : Extractor) : e.candidates documents = e.candidates others := by
  rw [Extractor.candidates, located_congr h, Extractor.candidates]

theorem summary_congr (e : Extractor) : e.summary documents = e.summary others := by
  rw [Extractor.summary, Extractor.select, candidates_congr h, Extractor.summary, Extractor.select]

end Texts

end Extraction

/-! ### Two runs -/

/-- The summary, and the labels that it was ranked under. -/
def Report.findings (r : Report) : String × (Group → List String) := (r.summary, r.thesis.labels)

/-- On either list of documents there is a report, and the two agree in what is observed. -/
def Generator.Agree {α : Type} (g : Generator) (observe : Report → α) (topic : String)
    (documents others : List Document) : Prop :=
  ∃ report other, g.generate topic documents = .ok report ∧ g.generate topic others = .ok other ∧
    observe report = observe other

theorem findings_eq {summary other : String} (h : summary = other) (s : Scorer) (topic name : String)
    (documents others : List Document) :
    Report.findings ⟨topic, name, summary, s.thesis summary documents⟩ =
      Report.findings ⟨topic, name, other, s.thesis other others⟩ := by
  subst h
  refine Prod.ext rfl (funext fun group => ?_)
  simp [Report.findings]

/-- **Texts and metadata apart.** Documents with equal texts give reports with equal findings, whatever their metadata,
and documents with equal metadata give reports with equal sources, whatever their texts. A summary from elsewhere has
its findings with any documents. -/
theorem texts_and_metadata_apart (s : Scorer) (topic : String) (documents others : List Document) :
    (documents.map Document.text = others.map Document.text →
      ∀ e, Generator.Agree ⟨.extractive e, s⟩ Report.findings topic documents others) ∧
    (documents.map Document.metadata = others.map Document.metadata →
      (∀ e, Generator.Agree ⟨.extractive e, s⟩ (·.thesis.sources) topic documents others) ∧
      ∀ text, Generator.Agree ⟨.external text, s⟩ (·.thesis.sources) topic documents others) ∧
    ∀ text, Generator.Agree ⟨.external text, s⟩ Report.findings topic documents others := by
  refine ⟨fun htexts e => ?_, fun hmetadata => ⟨fun e => ?_, fun text => ?_⟩, fun text => ?_⟩
  · exact ⟨_, _, rfl, rfl, findings_eq (summary_congr htexts e) s topic _ documents others⟩
  · exact ⟨_, _, rfl, rfl, collectSources_congr hmetadata⟩
  · exact ⟨_, _, rfl, rfl, collectSources_congr hmetadata⟩
  · exact ⟨_, _, rfl, rfl, findings_eq rfl s topic _ documents others⟩

end MarketBrief
