import MarketBrief.Document.Basic
import MarketBrief.Article.Clean

/-!
# Cleaning documents

* `Document.cleaned`: a document with the noise taken out of its text.
-/

namespace MarketBrief

def Document.cleaned (d : Document) : Document := { d with text := Article.clean d.text }

end MarketBrief
