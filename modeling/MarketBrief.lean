import MarketBrief.Article.Boilerplate
import MarketBrief.Article.Clean
import MarketBrief.Article.Promotion
import MarketBrief.Category.Fintech
import MarketBrief.Category.Json
import MarketBrief.Category.Keyword
import MarketBrief.Category.Scoring
import MarketBrief.Category.Source
import MarketBrief.Category.Table
import MarketBrief.Command.Arguments
import MarketBrief.Command.Options
import MarketBrief.Command.Run
import MarketBrief.Document.Basic
import MarketBrief.Document.Clean
import MarketBrief.Document.Json
import MarketBrief.Document.Metadata
import MarketBrief.Extraction.Candidate
import MarketBrief.Extraction.Options
import MarketBrief.Extraction.Selection
import MarketBrief.Folder
import MarketBrief.Json.Printer
import MarketBrief.Json.Quoted
import MarketBrief.Json.Reader
import MarketBrief.Json.Record
import MarketBrief.Json.Token
import MarketBrief.Json.Value
import MarketBrief.Lexicon.Basic
import MarketBrief.Lexicon.Fintech
import MarketBrief.Main
import MarketBrief.Number.Binary64
import MarketBrief.Number.Decimal
import MarketBrief.Number.Natural
import MarketBrief.Number.Shortest
import MarketBrief.Overlap
import MarketBrief.Proofs.Article.Clean
import MarketBrief.Proofs.Article.FixedPoint
import MarketBrief.Proofs.Article.Layout
import MarketBrief.Proofs.Article.Paragraphs
import MarketBrief.Proofs.Article.Promotion
import MarketBrief.Proofs.Article.Remainder
import MarketBrief.Proofs.Article.Spaces
import MarketBrief.Proofs.Category.Detection
import MarketBrief.Proofs.Category.Occurrences
import MarketBrief.Proofs.Category.Table
import MarketBrief.Proofs.Extraction.Candidate
import MarketBrief.Proofs.Extraction.Choice
import MarketBrief.Proofs.Extraction.Selection
import MarketBrief.Proofs.Lists
import MarketBrief.Proofs.Overlap
import MarketBrief.Proofs.Report.Grounding
import MarketBrief.Proofs.Sentence.Cuts
import MarketBrief.Proofs.Sentence.Layout
import MarketBrief.Proofs.Sentence.Lookback
import MarketBrief.Proofs.Sentence.Pieces
import MarketBrief.Proofs.Sentence.Resplit
import MarketBrief.Proofs.Text.Joined
import MarketBrief.Proofs.Text.Lines
import MarketBrief.Proofs.Text.Phrase
import MarketBrief.Proofs.Text.Trim
import MarketBrief.Proofs.Thesis.Order
import MarketBrief.Proofs.Thesis.Ranking
import MarketBrief.Proofs.Unicode.Class
import MarketBrief.Proofs.Unicode.Lowercase
import MarketBrief.Report.Basic
import MarketBrief.Report.Json
import MarketBrief.Report.Markdown
import MarketBrief.Sentence.Boundary
import MarketBrief.Sentence.Quality
import MarketBrief.Sentence.Split
import MarketBrief.Settings.Basic
import MarketBrief.Settings.EnvFile
import MarketBrief.Settings.LogFilter
import MarketBrief.Settings.Pattern.Atom
import MarketBrief.Settings.Pattern.Bracket
import MarketBrief.Settings.Pattern.Grammar
import MarketBrief.Summarizer
import MarketBrief.Text.Basic
import MarketBrief.Text.Phrase
import MarketBrief.Thesis.Basic
import MarketBrief.Thesis.Json
import MarketBrief.Thesis.Ranking
import MarketBrief.Token
import MarketBrief.Unicode.Alphabetic
import MarketBrief.Unicode.Blank
import MarketBrief.Unicode.Case
import MarketBrief.Unicode.Letter
import MarketBrief.Unicode.Lowercase
import MarketBrief.Unicode.Number
import MarketBrief.Unicode.Run
import MarketBrief.Unicode.Settled
import MarketBrief.Unicode.Word
import MarketBrief.Yaml.Cursor
import MarketBrief.Yaml.Document
import MarketBrief.Yaml.Node
import MarketBrief.Yaml.Scalar
import MarketBrief.Yaml.Tag
import MarketBrief.Yaml.Token
import MarketBrief.Proofs.Category.Faults
import MarketBrief.Proofs.Category.NormalForm
import MarketBrief.Proofs.Extraction.Filters
import MarketBrief.Proofs.Extraction.Copies
import MarketBrief.Proofs.Thesis.Blanks
import MarketBrief.Proofs.Command.Pipeline
import MarketBrief.Proofs.Lexicon.Score
import MarketBrief.Proofs.Sentence.Tokens
import MarketBrief.Proofs.Document.Sources
import MarketBrief.Proofs.Report.Separation
import MarketBrief.Proofs.Unicode.Ascii
import MarketBrief.Proofs.Case
import MarketBrief.Proofs.Number.Natural
import MarketBrief.Proofs.Settings.Environment
import MarketBrief.Proofs.Command.Settings
import MarketBrief.Proofs.Command.Threshold
import MarketBrief.Proofs.Command.Arguments
import MarketBrief.Proofs.Settings.EnvFile
import MarketBrief.Proofs.Command.Beside
import MarketBrief.Proofs.Command.Interchange
import MarketBrief.Proofs.Command.Outcome
import MarketBrief.Proofs.Json.Quoted
import MarketBrief.Proofs.Json.Reader
import MarketBrief.Proofs.Json.Record
import MarketBrief.Proofs.Extraction.Limit
import MarketBrief.Proofs.Category.Positions
import MarketBrief.Proofs.Thesis.Sums
import MarketBrief.Proofs.Thesis.Strategies
import MarketBrief.Proofs.Thesis.Spelling
import MarketBrief.Proofs.Thesis.Independence
import MarketBrief.Proofs.Thesis.Wrapping
import MarketBrief.Proofs.Token.Grammar
import MarketBrief.Proofs.Lexicon.Places
import MarketBrief.Proofs.Lexicon.Seam
import MarketBrief.Proofs.Lexicon.Plurals
import MarketBrief.Proofs.Lexicon.Terms
import MarketBrief.Proofs.Overlap.Quotient
import MarketBrief.Proofs.Extraction.Best
import MarketBrief.Proofs.Sentence.Ends
import MarketBrief.Proofs.Extraction.Terminal
import MarketBrief.Proofs.Sentence.Stretches
import MarketBrief.Proofs.Extraction.Noise
import MarketBrief.Proofs.Extraction.Silent
import MarketBrief.Proofs.Lexicon.Folding
import MarketBrief.Proofs.Document.Steps
import MarketBrief.Proofs.Report.Markdown
import MarketBrief.Proofs.Text.Offsets
import MarketBrief.Proofs.Sentence.Offsets
import MarketBrief.Proofs.Category.Offsets
import MarketBrief.Proofs.Lexicon.Windows
import MarketBrief.Proofs.Offsets
