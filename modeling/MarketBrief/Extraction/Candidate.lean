import MarketBrief.Extraction.Options
import MarketBrief.Document.Basic
import MarketBrief.Sentence.Split
import MarketBrief.Sentence.Quality
import MarketBrief.Article.Promotion

/-!
# Candidate sentences

* `qualifies`: the filters that look at one sentence;
* `withoutFragments`: the filter that looks at all of them;
* `Extractor.candidates`: the sentences of several documents that pass, in reading order, numbered and scored.
-/

namespace MarketBrief.Extraction

/-- A sentence that may enter a summary. -/
structure Candidate where
  text : String
  /-- The place among all candidates. -/
  position : Nat
  /-- The place of its document among all documents. -/
  documentIndex : Nat
  score : Nat
  deriving DecidableEq, Repr

/-- Whether a sentence passes the filters that look at it alone. -/
def qualifies (o : Options) (sentence : String) : Bool :=
  o.minWords ≤ Sentence.wordCount sentence
    && !(o.requireTerminal && !Sentence.hasTerminalMark sentence)
    && !(o.dropPromotional && Article.isPromotional sentence)
    && !(o.dropGlued && Sentence.hasGluedWords sentence)

/-- The sentences of a document that pass these filters. A blank document has none. -/
def qualifying (o : Options) (d : Document) : List String :=
  if d.isBlank then [] else (Sentence.split d.text).filter (qualifies o)

/-- The qualifying sentences of all documents with the places of their documents, in reading order. -/
def located (o : Options) (documents : List Document) : List (Nat × String) :=
  documents.zipIdx.flatMap fun (d, i) => (qualifying o d).map (i, ·)

/-- The sentences without fragments, unless there is nothing else. -/
def withoutFragments (o : Options) (sentences : List (Nat × String)) : List (Nat × String) :=
  let whole := sentences.filter (!Sentence.isFragment ·.2)
  if o.dropFragments && !whole.isEmpty then whole else sentences

/-- The candidates of several documents in reading order. -/
def Extractor.candidates (e : Extractor) (documents : List Document) : List Candidate :=
  (withoutFragments e.options (located e.options documents)).zipIdx.map fun ((i, text), n) =>
    { text, position := n, documentIndex := i, score := e.lexicon.score text }

end MarketBrief.Extraction
