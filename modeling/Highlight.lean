import Highlight.CommandLine.Arguments
import Highlight.CommandLine.Cat
import Highlight.CommandLine.Check
import Highlight.CommandLine.Command
import Highlight.CommandLine.Outcome
import Highlight.CommandLine.Reach
import Highlight.CommandLine.Run
import Highlight.Config
import Highlight.Decoration
import Highlight.Document.Basic
import Highlight.Document.Compile
import Highlight.Document.Lexeme
import Highlight.Document.Reader
import Highlight.Failure
import Highlight.Files.Basic
import Highlight.Files.Path
import Highlight.History
import Highlight.Import
import Highlight.Journal
import Highlight.Layout
import Highlight.Lint
import Highlight.Main
import Highlight.Pattern
import Highlight.Problem
import Highlight.Regex.Basic
import Highlight.Regex.Fault
import Highlight.Regex.Parser
import Highlight.Regex.Program
import Highlight.Regex.Search
import Highlight.Regex.Test
import Highlight.Segment.Basic
import Highlight.Segment.Draft
import Highlight.Segment.Order
import Highlight.Segment.Printer
import Highlight.Sheet.Attempt
import Highlight.Sheet.Basic
import Highlight.Sheet.Printer
import Highlight.Sheet.Resolve
import Highlight.Source
import Highlight.Span
import Highlight.Style.Ansi
import Highlight.Style.Basic
import Highlight.Style.Colour
import Highlight.Style.Paint
import Highlight.Style.Printer
import Highlight.Style.Terminal
import Highlight.Text.Boundaries
import Highlight.Text.Case
import Highlight.Text.CharacterName
import Highlight.Text.CharacterName.Aliases
import Highlight.Text.CharacterName.Antiquity
import Highlight.Text.CharacterName.Asia
import Highlight.Text.CharacterName.Europe
import Highlight.Text.CharacterName.Family
import Highlight.Text.CharacterName.Pictures
import Highlight.Text.CharacterName.Syllables
import Highlight.Text.CharacterName.Symbols
import Highlight.Text.Decimal
import Highlight.Text.Delimited
import Highlight.Text.Excerpt
import Highlight.Text.Identifier
import Highlight.Text.Letter
import Highlight.Text.Printable
import Highlight.Text.Quoted
import Highlight.Text.Similarity
import Highlight.Text.Utf8
import Highlight.Tree
import Highlight.Proofs.Cascade
import Highlight.Proofs.Query
import Highlight.Proofs.Resolution
import Highlight.Proofs.Recording
import Highlight.Proofs.Traversal
import Highlight.Proofs.Scoping
import Highlight.Proofs.Importing
import Highlight.Proofs.Merging
import Highlight.Proofs.Flattening
import Highlight.Proofs.Marks
import Highlight.Proofs.Expansion
import Highlight.Proofs.Painting
import Highlight.Proofs.Coverage
import Highlight.Proofs.Derivation
import Highlight.Proofs.Reading
import Highlight.Proofs.Parsing
import Highlight.Proofs.Words
import Highlight.Proofs.Scanning
import Highlight.Proofs.Wording
import Highlight.Proofs.Concatenation
import Highlight.Proofs.Reporting
import Highlight.Proofs.Origins
import Highlight.Proofs.Legality
import Highlight.Proofs.Printing
import Highlight.Proofs.Chains
import Highlight.Proofs.Mirroring
import Highlight.Proofs.Pruning
import Highlight.Proofs.Sharing
import Highlight.Proofs.Preparing
import Highlight.Proofs.Reuse
import Highlight.Proofs.Outcomes
import Highlight.Proofs.Arguments
import Highlight.Proofs.Independence
import Highlight.Proofs.Persistence
import Highlight.Proofs.Findings
import Highlight.Proofs.Application
import Highlight.Proofs.Tidying
import Highlight.Proofs.Endings
import Highlight.Proofs.Keys
import Highlight.Proofs.Construction
import Highlight.Proofs.Absorption
import Highlight.Proofs.Presence
import Highlight.Proofs.Listing
import Highlight.Proofs.Lineation
import Highlight.Proofs.Spacing
import Highlight.Proofs.Literals
import Highlight.Proofs.Faults
import Highlight.Proofs.Locating
import Highlight.Proofs.Attribution
import Highlight.Proofs.Slots
import Highlight.Proofs.Atomicity
import Highlight.Proofs.Comparison
