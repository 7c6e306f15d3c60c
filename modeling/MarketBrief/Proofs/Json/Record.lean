import Mathlib.Data.List.Forall2
import MarketBrief.Command.Run
import MarketBrief.Document.Json
import MarketBrief.Proofs.Json.Reader
import MarketBrief.Proofs.Lists
import MarketBrief.Thesis.Json

/-!
# Theses and documents are read back

* `ofList_entries`: metadata are what the list of their entries leaves when it is written key by key;
* `Document.WrittenAs`: the records of a document, with its metadata or, if there are none, without them;
* `written_read_back`: the written forms of theses and of lists of documents give them back;
* `Quotations.written_read_back_of_quotations`: two documents full of characters that must be escaped.
-/

namespace MarketBrief

open Json

/-! ### Metadata -/

/-- A key above all others is written behind them. -/
theorem Metadata.insertEntry_of_forall_lt {key value : String} {entries : List (String × String)}
    (h : ∀ e ∈ entries, e.1 < key) : insertEntry key value entries = entries ++ [(key, value)] := by
  induction entries with
  | nil => rfl
  | cons e entries ih =>
    obtain ⟨k, v⟩ := e
    obtain ⟨hk, hentries⟩ := List.forall_mem_cons.1 h
    have hne : key ≠ k := by
      rintro rfl
      exact String.lt_irrefl _ hk
    rw [insertEntry, if_neg (String.lt_asymm hk), if_neg hne, ih hentries]
    rfl

theorem Metadata.entries_foldl_insert (m : Metadata) (back : List (String × String))
    (h : (m.entries ++ back).Pairwise fun a b => a.1 < b.1) :
    (back.foldl (fun m (key, value) => m.insert key value) m).entries = m.entries ++ back := by
  induction back generalizing m with
  | nil => exact (List.append_nil _).symm
  | cons e back ih =>
    obtain ⟨key, value⟩ := e
    have hlast : ∀ e ∈ m.entries, e.1 < key := fun e he => (List.pairwise_append.1 h).2.2 e he _ List.mem_cons_self
    have hinsert : (m.insert key value).entries = m.entries ++ [(key, value)] := insertEntry_of_forall_lt hlast
    have happend : (m.insert key value).entries ++ back = m.entries ++ (key, value) :: back := by
      rw [hinsert, List.append_assoc, List.singleton_append]
    rw [List.foldl_cons, ih _ (happend ▸ h), happend]

theorem Metadata.eq_of_entries_eq {m n : Metadata} (h : m.entries = n.entries) : m = n := by
  cases m
  cases n
  cases h
  rfl

theorem Metadata.ofList_entries (m : Metadata) : ofList m.entries = m :=
  eq_of_entries_eq (entries_foldl_insert empty m.entries m.ascending)

/-! ### Records -/

theorem mapM_map_eq_some {α β : Type} {f : β → Option α} {g : α → β} (h : ∀ a, f (g a) = some a) (l : List α) :
    (l.map g).mapM f = some l :=
  Lists.mapM_eq_some_of_forall₂ (List.forall₂_map_right_iff.2 (List.forall₂_same.2 fun a _ => h a))

theorem text?_ofText (text : String) : (Value.ofText text).text? = some text := rfl

theorem texts?_ofTexts (texts : List String) : (Value.ofTexts texts).texts? = some texts := by
  show (texts.map Value.ofText).mapM Value.text? = some texts
  exact mapM_map_eq_some text?_ofText texts

theorem Metadata.ofJson?_toJson (m : Metadata) : Metadata.ofJson? m.toJson = some m := by
  have hmembers : m.toJson.textMembers? = some m.entries := by
    rw [toJson, Value.record, List.map_map, Value.textMembers?]
    refine mapM_map_eq_some ?_ m.entries
    intro entry
    rfl
  rw [ofJson?, hmembers, Option.map_some, ofList_entries]

theorem Thesis.ofJson?_toJson (t : Thesis) : Thesis.ofJson? t.toJson = some t := by
  have hfields : t.toJson.fields? ["key_themes", "risks", "investment_signals", "sources"] =
      some [some (.ofTexts t.keyThemes), some (.ofTexts t.risks), some (.ofTexts t.investmentSignals),
        some (.ofTexts t.sources)] := rfl
  simp [ofJson?, hfields, texts?_ofTexts]

/-- A record of the document: its text and its metadata, which may be left out if there are none. -/
inductive Document.WrittenAs : Document → Value → Prop
  | whole (d : Document) : WrittenAs d d.toJson
  | alone (text : String) : WrittenAs { text } (.record [("text", .ofText text)])

theorem Document.WrittenAs.ofJson?_eq {d : Document} {v : Value} (h : d.WrittenAs v) : Document.ofJson? v = some d := by
  cases h with
  | whole =>
    have hfields : d.toJson.fields? ["text", "metadata"] = some [some (.ofText d.text), some d.metadata.toJson] := rfl
    simp [ofJson?, hfields, text?_ofText, Metadata.ofJson?_toJson]
  | alone text =>
    have hfields : (Value.record [("text", .ofText text)]).fields? ["text", "metadata"] =
        some [some (.ofText text), none] := rfl
    simp [ofJson?, hfields, text?_ofText]

/-! ### Written forms -/

theorem isTextual_ofTexts (texts : List String) : (Value.ofTexts texts).IsTextual := by
  refine .array fun v hv => ?_
  obtain ⟨text, -, rfl⟩ := List.mem_map.1 hv
  exact .text text

theorem Thesis.isTextual_toJson (t : Thesis) : t.toJson.IsTextual := by
  refine .record ?_
  simp only [List.forall_mem_cons]
  exact ⟨isTextual_ofTexts _, isTextual_ofTexts _, isTextual_ofTexts _, isTextual_ofTexts _, by simp⟩

theorem Metadata.isTextual_toJson (m : Metadata) : m.toJson.IsTextual := by
  refine .record fun e he => ?_
  obtain ⟨⟨key, value⟩, -, rfl⟩ := List.mem_map.1 he
  exact .text value

theorem Document.WrittenAs.isTextual {d : Document} {v : Value} (h : d.WrittenAs v) : v.IsTextual := by
  cases h with
  | whole => exact .record (List.forall_mem_cons.2 ⟨.text _, List.forall_mem_singleton.2 d.metadata.isTextual_toJson⟩)
  | alone text => exact .record (List.forall_mem_singleton.2 (.text text))

theorem isTextual_array_of_writtenAs {documents : List Document} {values : List Value}
    (h : List.Forall₂ Document.WrittenAs documents values) : (Value.array values).IsTextual := by
  refine .array ?_
  induction h with
  | nil => exact List.forall_mem_nil _
  | cons hv _ ih => exact List.forall_mem_cons.2 ⟨hv.isTextual, ih⟩

/-- A value that is written on one line, indented, or indented as a line of output, is found again. -/
theorem read?_written {v : Value} (h : v.IsTextual) :
    Value.read? v.line = some v ∧ Value.read? v.pretty = some v ∧
      Value.read? (Outcome.printed v.pretty).output = some v := by
  have hend : ∀ c ∈ ['\n'], isSpace c = true := List.forall_mem_singleton.2 rfl
  have houtput : (Outcome.printed v.pretty).output = String.ofList (v.prettyAt 0 ++ ['\n']) := by
    rw [Outcome.output_printed, Value.pretty, String.ofList_append]
  have hline := read?_of_reads (reads_compact h) forall_isSpace_nil
  have hpretty := read?_of_reads (reads_prettyAt h 0) forall_isSpace_nil
  rw [List.append_nil] at hline hpretty
  exact ⟨hline, hpretty, houtput ▸ read?_of_reads (reads_prettyAt h 0) hend⟩

theorem readList?_of_read? {documents : List Document} {values : List Value}
    (h : List.Forall₂ Document.WrittenAs documents values) {text : String}
    (hread : Value.read? text = some (.array values)) : Document.readList? text = some documents := by
  rw [Document.readList?, hread]
  exact Lists.mapM_eq_some_of_forall₂ (h.imp fun _ _ => Document.WrittenAs.ofJson?_eq)

/-- **Writing and reading are inverse.** A thesis that is written on one line, indented, or printed, is read as the
same thesis, and a list of documents as the same list, whichever documents without metadata are written without them. -/
theorem written_read_back :
    (∀ t : Thesis,
      Value.read? t.toJson.line >>= Thesis.ofJson? = some t ∧
      Value.read? t.toJson.pretty >>= Thesis.ofJson? = some t ∧
      Value.read? (Outcome.printed t.toJson.pretty).output >>= Thesis.ofJson? = some t) ∧
    ∀ documents values, List.Forall₂ Document.WrittenAs documents values →
      Document.readList? (Value.array values).line = some documents ∧
      Document.readList? (Value.array values).pretty = some documents ∧
      Document.readList? (Outcome.printed (Value.array values).pretty).output = some documents := by
  constructor
  · intro t
    obtain ⟨hline, hpretty, houtput⟩ := read?_written t.isTextual_toJson
    rw [hline, hpretty, houtput]
    exact ⟨t.ofJson?_toJson, t.ofJson?_toJson, t.ofJson?_toJson⟩
  · intro documents values h
    obtain ⟨hline, hpretty, houtput⟩ := read?_written (isTextual_array_of_writtenAs h)
    exact ⟨readList?_of_read? h hline, readList?_of_read? h hpretty, readList?_of_read? h houtput⟩

/-! Documents full of characters that must be escaped. -/

namespace Quotations

/-- A text with quotes, a backslash, controls and a character outside the basic plane. -/
def text : String := "\"A \\ B\"\x00\x1f\t\n\u007f\u2028 \ud7ff 😀"

def documents : List Document := [⟨text, Metadata.ofList [("title", text), (text, "")]⟩, { text }]

/-- The records of the two, the second without metadata. -/
def values : List Value := [Document.toJson ⟨text, Metadata.ofList [("title", text), (text, "")]⟩, .record [("text", .ofText text)]]

theorem written_read_back_of_quotations :
    (∀ t : Thesis, Value.read? t.toJson.line >>= Thesis.ofJson? = some t ∧
      Value.read? t.toJson.pretty >>= Thesis.ofJson? = some t ∧
      Value.read? (Outcome.printed t.toJson.pretty).output >>= Thesis.ofJson? = some t) ∧
    List.Forall₂ Document.WrittenAs documents values ∧
      Document.readList? (Value.array values).line = some documents ∧
      Document.readList? (Value.array values).pretty = some documents ∧
      Document.readList? (Outcome.printed (Value.array values).pretty).output = some documents :=
  have h : List.Forall₂ Document.WrittenAs documents values := .cons (.whole _) (.cons (.alone _) .nil)
  ⟨written_read_back.1, h, written_read_back.2 documents values h⟩

end Quotations

end MarketBrief
