import MarketBrief.Document.Metadata
import MarketBrief.Text.Basic

/-!
# Documents

A document is a text with metadata: where it came from, its title, and whatever else its collector noted.

* `Document.sourceId?`: the source that a document names;
* `collectSources`: the sources of several documents, each once, in the order of their first mention.
-/

namespace MarketBrief

open Text

/-- A text and its metadata. -/
structure Document where
  text : String
  metadata : Metadata := .empty
  deriving DecidableEq

/-- The keys that may name a document's source, the preferred one first. -/
def sourceKeys : List String := ["source_url", "url", "source"]

namespace Document

def withMetadata (d : Document) (key value : String) : Document := { d with metadata := d.metadata.insert key value }

/-- The document with a new address as its source. -/
def withSource (d : Document) (url : String) : Document := d.withMetadata "source_url" url

/-- The value of the first source key that is not blank, without blanks at its ends. -/
def sourceId? (d : Document) : Option String :=
  ((sourceKeys.filterMap d.metadata.get?).map trimmed).find? (· ≠ "")

def title? (d : Document) : Option String := d.metadata.get? "title"

/-- Whether the text holds nothing but blanks. -/
def isBlank (d : Document) : Bool := isBlankText d.text

end Document

/-- The sources that documents name, each once, in the order of their first mention. -/
def collectSources (documents : List Document) : List String := (documents.filterMap Document.sourceId?).eraseDups

end MarketBrief
