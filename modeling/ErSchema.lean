import ErSchema.Cardinality
import ErSchema.Classification
import ErSchema.CommandLine
import ErSchema.CompileError
import ErSchema.Ddl
import ErSchema.Decimal.Shortest
import ErSchema.Diagnostics
import ErSchema.Diagram.Basic
import ErSchema.Diagram.Document
import ErSchema.Diagram.Index
import ErSchema.Directory
import ErSchema.Files
import ErSchema.Json.Basic
import ErSchema.Json.Fault
import ErSchema.Json.Numerals
import ErSchema.Json.Reader
import ErSchema.Json.Records
import ErSchema.Json.Render
import ErSchema.Json.Skip
import ErSchema.Json.Strings
import ErSchema.Json.Values
import ErSchema.Main
import ErSchema.Mapping
import ErSchema.Proofs.Diagram.Lookup
import ErSchema.Proofs.Diagram.Validity
import ErSchema.Proofs.Table.Merging
import ErSchema.Schema
import ErSchema.Table.Basic
import ErSchema.Table.Merger
import ErSchema.Table.Sanitize
import ErSchema.Text.Blank
import ErSchema.Text.CombiningClass
import ErSchema.Text.Decomposition
import ErSchema.Text.Decomposition.Table
import ErSchema.Text.Fold
import ErSchema.Text.Mark
import ErSchema.Text.Normal
import ErSchema.Text.Quoted
import ErSchema.Text.Ranges
import ErSchema.Text.Visible
import ErSchema.Validation
import ErSchema.Proofs.Schema.Drafts
import ErSchema.Proofs.Schema.Forms
import ErSchema.Proofs.Schema.Gate
import ErSchema.Proofs.Table.Sanitizing
import ErSchema.Proofs.Schema.References
import ErSchema.Proofs.Text.Ordering
import ErSchema.Proofs.Text.CharacterData
import ErSchema.Proofs.Text.Folding
import ErSchema.Proofs.Text.Occurrences
import ErSchema.Proofs.Schema.Keys
import ErSchema.Proofs.Schema.Taken
import ErSchema.Proofs.Schema.Counting
import ErSchema.Proofs.Schema.Tabled
import ErSchema.Proofs.Table.Naming
import ErSchema.Proofs.Schema.Clashes
import ErSchema.Proofs.Text.Readable
import ErSchema.Proofs.Table.Script
import ErSchema.Proofs.Table.Recovery
import ErSchema.Proofs.Diagram.Checks
import ErSchema.Proofs.Diagram.Embedding
import ErSchema.Proofs.Schema.Stages
import ErSchema.Proofs.Schema.Relabeling
import ErSchema.Proofs.Schema.Independence
import ErSchema.Proofs.Schema.Growth
import ErSchema.Proofs.Diagram.Direction
import ErSchema.Proofs.Schema.Redrawing
import ErSchema.Proofs.Json.Spelling
import ErSchema.Proofs.Json.Scanning
import ErSchema.Proofs.Json.Scalars
import ErSchema.Proofs.Json.Reading
import ErSchema.Proofs.Json.Skipping
import ErSchema.Proofs.Json.Records
import ErSchema.Proofs.Json.Accepting
import ErSchema.Proofs.Json.Covering
import ErSchema.Proofs.Json.Respelling
import ErSchema.Proofs.Json.Writing
import ErSchema.Proofs.Json.Layout
import ErSchema.Proofs.Diagram.Fields
import ErSchema.Proofs.Diagram.RoundTrip
import ErSchema.Proofs.Diagram.Respelling
import ErSchema.Proofs.CommandLine.Arguments
import ErSchema.Proofs.CommandLine.Printing
import ErSchema.Proofs.CommandLine.Outcomes
import ErSchema.Proofs.CommandLine.Effects
import ErSchema.Proofs.Table.Renaming
import ErSchema.Proofs.Table.Union
import ErSchema.Proofs.CommandLine.Modes
import ErSchema.Proofs.Table.Passes
import ErSchema.Proofs.Table.Phrases
import ErSchema.Proofs.Schema.Attributes
import ErSchema.Proofs.Schema.Constraints
import ErSchema.Proofs.Schema.Ownership
import ErSchema.Proofs.Diagram.Reordering
import ErSchema.Proofs.Schema.Classifying
import ErSchema.Proofs.CommandLine.Ordering
import ErSchema.Proofs.Text.Separators
import ErSchema.Proofs.Table.Cutting
import ErSchema.Proofs.Schema.Wording
import ErSchema.Proofs.Schema.ConstraintNames
