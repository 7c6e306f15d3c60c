import MarketBrief.Document.Basic
import MarketBrief.Proofs.Lists
import MarketBrief.Proofs.Text.Lowered

/-!
# The sources of documents

* `Document.Lacks`, `Document.NamesSource`: what it is for a document to name a source, key by key;
* `sourceId?_eq_some_iff`, `sourceId?_eq_none_iff`: which source a document names, and when it names none;
* `collectSources_congr`: sources are read from metadata alone;
* `collectSources_first_named`: the sources of several documents, their order, and those of two lists one behind the
  other.
-/

namespace MarketBrief

open MarketBrief.Lists Text

/-! ### The source of one document -/

namespace Document

/-- The key is missing, or its value is blank. -/
def Lacks (d : Document) (key : String) : Prop := ∀ value ∈ d.metadata.get? key, isBlankText value = true

/-- The source is the value of a source key, without blanks at its ends, and the document lacks every key that is
preferred to that one. -/
def NamesSource (d : Document) (source : String) : Prop :=
  ∃ preferred key others value, sourceKeys = preferred ++ key :: others ∧ (∀ k ∈ preferred, d.Lacks k) ∧
    d.metadata.get? key = some value ∧ isBlankText value = false ∧ trimmed value = source

theorem lacks_iff {d : Document} {key : String} :
    d.Lacks key ↔ ((d.metadata.get? key).map trimmed).any (· ≠ "") = false := by
  cases hvalue : d.metadata.get? key with
  | none => simp [Lacks, hvalue]
  | some value => simp [Lacks, hvalue, trimmed_eq_empty_iff]

instance (d : Document) (key : String) : Decidable (d.Lacks key) := decidable_of_iff _ lacks_iff.symm

theorem sourceId?_eq_bind (d : Document) :
    d.sourceId? = (sourceKeys.find? fun key => !decide (d.Lacks key)).bind fun key =>
      (d.metadata.get? key).map trimmed := by
  have hkeys : (fun key => ((d.metadata.get? key).map trimmed).any (· ≠ "")) = fun key => !decide (d.Lacks key) := by
    funext key
    simp [lacks_iff]
  rw [sourceId?, List.map_filterMap, List.find?_filterMap, hkeys]

theorem sourceId?_eq_some_iff {d : Document} {source : String} : d.sourceId? = some source ↔ d.NamesSource source := by
  rw [sourceId?_eq_bind, Option.bind_eq_some_iff]
  constructor
  · rintro ⟨key, hkey, hsource⟩
    obtain ⟨hhas, preferred, others, hkeys, hpreferred⟩ := List.find?_eq_some_iff_append.1 hkey
    obtain ⟨value, hvalue, htrimmed⟩ := Option.map_eq_some_iff.1 hsource
    refine ⟨preferred, key, others, value, hkeys, fun k hk => ?_, hvalue, ?_, htrimmed⟩
    · simpa using hpreferred k hk
    · simpa [Lacks, hvalue] using hhas
  · rintro ⟨preferred, key, others, value, hkeys, hpreferred, hvalue, hblank, htrimmed⟩
    refine ⟨key, List.find?_eq_some_iff_append.2 ⟨?_, preferred, others, hkeys, fun k hk => ?_⟩, ?_⟩
    · simp [Lacks, hvalue, hblank]
    · simpa using hpreferred k hk
    · rw [hvalue, Option.map_some, htrimmed]

theorem sourceId?_eq_none_iff {d : Document} : d.sourceId? = none ↔ ∀ key ∈ sourceKeys, d.Lacks key := by
  rw [sourceId?, List.find?_eq_none]
  constructor
  · intro h key hkey value hvalue
    have hmem : trimmed value ∈ (sourceKeys.filterMap d.metadata.get?).map trimmed :=
      List.mem_map_of_mem (List.mem_filterMap.2 ⟨key, hkey, hvalue⟩)
    simpa [trimmed_eq_empty_iff] using h _ hmem
  · intro h source hsource
    obtain ⟨value, hvalue, rfl⟩ := List.mem_map.1 hsource
    obtain ⟨key, hkey, hget⟩ := List.mem_filterMap.1 hvalue
    simpa [trimmed_eq_empty_iff] using h key hkey value hget

instance (d : Document) (source : String) : Decidable (d.NamesSource source) :=
  decidable_of_iff _ sourceId?_eq_some_iff

theorem NamesSource.trimmed_eq {d : Document} {source : String} (h : d.NamesSource source) :
    trimmed source = source := by
  obtain ⟨_, _, _, value, -, -, -, -, rfl⟩ := h
  exact trimmed_trimmed value

theorem NamesSource.isBlankText_eq {d : Document} {source : String} (h : d.NamesSource source) :
    isBlankText source = false := by
  obtain ⟨_, _, _, value, -, -, -, hblank, rfl⟩ := h
  rwa [Bool.eq_false_iff, Ne, ← trimmed_eq_empty_iff, trimmed_trimmed, trimmed_eq_empty_iff, ← Ne, ← Bool.eq_false_iff]

end Document

/-! ### The sources of several documents -/

theorem mem_collectSources_iff {documents : List Document} {source : String} :
    source ∈ collectSources documents ↔ ∃ d ∈ documents, d.NamesSource source := by
  rw [collectSources, List.mem_eraseDups, List.mem_filterMap]
  simp only [Document.sourceId?_eq_some_iff]

/-- Sources are read from the metadata, and from nothing else. -/
theorem collectSources_congr {documents others : List Document}
    (h : documents.map Document.metadata = others.map Document.metadata) :
    collectSources documents = collectSources others := by
  have hmetadata : ∀ ds : List Document,
      ds.filterMap Document.sourceId? = (ds.map Document.metadata).filterMap fun m => Document.sourceId? ⟨"", m⟩ := by
    -- a source is looked up in the metadata, so any text will do
    intro ds
    rw [List.filterMap_map]
    rfl
  rw [collectSources, collectSources, hmetadata, hmetadata, h]

theorem collectSources_pairwise (documents : List Document) :
    (collectSources documents).Pairwise fun a b =>
      documents.findIdx (·.NamesSource a) < documents.findIdx (·.NamesSource b) := by
  have hnames : ∀ source,
      (fun d : Document => d.sourceId? == some source) = fun d => decide (d.NamesSource source) := by
    intro source
    funext d
    rw [Bool.eq_iff_iff, beq_iff_eq, decide_eq_true_eq, Document.sourceId?_eq_some_iff]
  refine (pairwise_eraseDups (documents.filterMap Document.sourceId?)).imp fun {a b} hlt => ?_
  rw [← hnames, ← hnames]
  exact findIdx_lt_of_filterMap hlt

theorem collectSources_append (documents others : List Document) :
    collectSources (documents ++ others) =
      collectSources documents ++
        (collectSources others).filter fun source => !(collectSources documents).contains source := by
  rw [collectSources, List.filterMap_append, eraseDups_append_eq]
  rfl

theorem collectSources_append_cons_of_lacks {d : Document} (h : ∀ key ∈ sourceKeys, d.Lacks key)
    (documents others : List Document) :
    collectSources (documents ++ d :: others) = collectSources (documents ++ others) := by
  rw [collectSources, collectSources, List.filterMap_append, List.filterMap_append,
    List.filterMap_cons_none (Document.sourceId?_eq_none_iff.2 h)]

/-- **Sources.** Several documents have the sources that one of them names, each once, by the first document that names
it. Documents behind add the sources that are new, and a document without source keys adds none, whatever its text. -/
theorem collectSources_first_named (documents : List Document) :
    (∀ source, source ∈ collectSources documents ↔ ∃ d ∈ documents, d.NamesSource source) ∧
    (∀ source ∈ collectSources documents, trimmed source = source ∧ isBlankText source = false) ∧
    (collectSources documents).Nodup ∧
    ((collectSources documents).Pairwise fun a b =>
      documents.findIdx (·.NamesSource a) < documents.findIdx (·.NamesSource b)) ∧
    (∀ others, collectSources (documents ++ others) =
      collectSources documents ++
        (collectSources others).filter fun source => !(collectSources documents).contains source) ∧
    ∀ d : Document, (∀ key ∈ sourceKeys, d.Lacks key) →
      ∀ others, collectSources (documents ++ d :: others) = collectSources (documents ++ others) := by
  refine ⟨fun _ => mem_collectSources_iff, ?_, nodup_eraseDups _, collectSources_pairwise documents,
    collectSources_append documents, fun d hd => collectSources_append_cons_of_lacks hd documents⟩
  intro source hsource
  obtain ⟨d, -, hnames⟩ := mem_collectSources_iff.1 hsource
  exact ⟨hnames.trimmed_eq, hnames.isBlankText_eq⟩

/-! A blank value lets the next key speak, and the key that speaks is no part of the source. -/

example :
    collectSources [⟨"", .ofList [("source_url", " "), ("url", " https://a.com\n")]⟩, ⟨"No source.", .empty⟩,
      ⟨"", .ofList [("source", "desk")]⟩, ⟨"", .ofList [("source", "https://a.com"), ("title", "desk")]⟩] =
        ["https://a.com", "desk"] := by decide +kernel

end MarketBrief
