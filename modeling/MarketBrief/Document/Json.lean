import MarketBrief.Document.Basic
import MarketBrief.Json.Record
import MarketBrief.Json.Reader

/-!
# Documents in JSON

* `Document.toJson`, `Document.ofJson?`: a document as a record of `text` and `metadata`;
* `Document.readList?`: the documents of a text.
-/

namespace MarketBrief

open Json

/-- Metadata as an object in the order of the keys. -/
def Metadata.toJson (m : Metadata) : Value := .record (m.entries.map fun (key, value) => (key, .ofText value))

/-- The metadata of an object of texts. Of several values for a key the last one counts. -/
def Metadata.ofJson? (v : Value) : Option Metadata := v.textMembers?.map ofList

namespace Document

def toJson (d : Document) : Value := .record [("text", .ofText d.text), ("metadata", d.metadata.toJson)]

/-- The document that a record writes. The text must be there; without metadata there are no keys. -/
def ofJson? (v : Value) : Option Document := do
  match ← v.fields? ["text", "metadata"] with
  | [some text, none] => return { text := ← text.text? }
  | [some text, some metadata] => return { text := ← text.text?, metadata := ← Metadata.ofJson? metadata }
  | _ => none

def readList? (text : String) : Option (List Document) := Value.read? text >>= Value.list? ofJson?

end Document

end MarketBrief
