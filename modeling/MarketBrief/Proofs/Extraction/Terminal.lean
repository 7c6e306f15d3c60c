import MarketBrief.Proofs.Extraction.Copies
import MarketBrief.Proofs.Sentence.Ends

/-!
# The filter for terminal marks

Sentences are cut where they end as sentences do, so only the last one of a document can lack a terminal mark.

* `Options.requiring`: the same options with or without that filter;
* `qualifying_requiring`: the filter is one more test of each sentence;
* `sentence_ends_and_beginnings`: what sentences end and begin with, and what the filters can take away.
-/

namespace MarketBrief.Extraction

open Sentence

def Options.requiring (o : Options) (required : Bool) : Options := { o with requireTerminal := required }

theorem passes_requiring_iff {o : Options} {s : String} :
    Passes (o.requiring true) s ↔ Passes (o.requiring false) s ∧ hasTerminalMark s = true :=
  ⟨fun ⟨hwords, hterminal, hpromotional, hglued⟩ =>
    ⟨⟨hwords, fun hnever => Bool.noConfusion hnever, hpromotional, hglued⟩, hterminal rfl⟩,
    fun ⟨⟨hwords, _, hpromotional, hglued⟩, hterminal⟩ => ⟨hwords, fun _ => hterminal, hpromotional, hglued⟩⟩

theorem qualifying_requiring (o : Options) (d : Document) :
    qualifying (o.requiring true) d = (qualifying (o.requiring false) d).filter hasTerminalMark := by
  rw [qualifying_eq_filter, qualifying_eq_filter, List.filter_filter]
  exact List.filter_congr fun s _ => by simp [passes_requiring_iff, and_comm]

theorem exists_qualifying_requiring (o : Options) (d : Document) :
    ∃ removed, removed.Sublist (split d.text).getLast?.toList ∧
      qualifying (o.requiring false) d = qualifying (o.requiring true) d ++ removed := by
  rw [qualifying_requiring, qualifying_eq_filter]
  exact Lists.exists_filter_eq_append (fun s => hasTerminalMark_of_mem_dropLast) _

theorem filter_isFragment_textsOf_sublist (e : Extractor) {documents : List Document} {place : Nat} {d : Document}
    (hd : documents[place]? = some d) :
    ((textsOf place (e.candidates documents)).filter isFragment).Sublist (split d.text).head?.toList :=
  ((textsOf_candidates_sublist e documents hd).filter _).trans (filter_isFragment_sublist d.text)

/-- **Sentences end and begin as sentences do.** All sentences of a text but the last one have a terminal mark, and all
but the first one begin with an uppercase letter, a digit, or a quote or bracket that opens. So to require a terminal
mark takes away at most the last sentence of a document from those that pass the other filters, and at most the first
sentence of a document is a fragment, among all its sentences and among the candidates. -/
theorem sentence_ends_and_beginnings :
    (∀ text, (∀ s ∈ (split text).dropLast, hasTerminalMark s = true) ∧
      (∀ s ∈ (split text).tail, BeginsSentence s) ∧
      ((split text).filter isFragment).Sublist (split text).head?.toList) ∧
    (∀ (o : Options) (d : Document), ∃ removed, removed.Sublist (split d.text).getLast?.toList ∧
      qualifying (o.requiring false) d = qualifying (o.requiring true) d ++ removed) ∧
    ∀ (e : Extractor) (documents : List Document) (place : Nat) (d : Document), documents[place]? = some d →
      ((textsOf place (e.candidates documents)).filter isFragment).Sublist (split d.text).head?.toList := by
  refine ⟨fun text => ⟨fun s => hasTerminalMark_of_mem_dropLast, fun s => beginsSentence_of_mem_tail,
    filter_isFragment_sublist text⟩, exists_qualifying_requiring, fun e documents place d hd => ?_⟩
  exact filter_isFragment_textsOf_sublist e hd

/-! Runs of several kinds of marks, a fragment at the beginning, and no mark at the end. -/

namespace Quoted

/-- A document that begins in the middle of a sentence and breaks off in one. -/
def document : Document :=
  ⟨"and then (he said \"fees fell!\").\n\"Did rates rise?!\" 7 banks asked... [No answer] came for months", .empty⟩

def sentences : List String :=
  ["and then (he said \"fees fell!\").", "\"Did rates rise?!\"", "7 banks asked...", "[No answer] came for months"]

def extractor : Extractor := ⟨{ minWords := 0, dropFragments := false }, .ofTerms [], isFraction_default⟩

theorem sentence_ends_and_beginnings_of_quotes :
    split document.text = sentences ∧
    (∀ s ∈ sentences.dropLast, hasTerminalMark s = true) ∧
    (∀ s ∈ sentences.tail, BeginsSentence s) ∧
    [document][0]? = some document ∧
    ((textsOf 0 (extractor.candidates [document])).filter isFragment).Sublist ["and then (he said \"fees fell!\")."] := by
  have hsplit : split document.text = sentences := by decide +kernel
  obtain ⟨htexts, -, hcandidates⟩ := sentence_ends_and_beginnings
  obtain ⟨hends, hbegins, -⟩ := htexts document.text
  have hfragments := hcandidates extractor [document] 0 document rfl
  rw [hsplit] at hends hbegins hfragments
  exact ⟨hsplit, hends, hbegins, rfl, hfragments⟩

end Quoted

end MarketBrief.Extraction
