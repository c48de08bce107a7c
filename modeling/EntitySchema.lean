/-
Entities, their fields and relationships: documents that declare them, the check of a document against a storage
technology, and the model that is built from it.
-/
import EntitySchema.Compilation
import EntitySchema.Decimal.Binary64
import EntitySchema.Decimal.Number
import EntitySchema.Decimal.Shortest
import EntitySchema.Document.Basic
import EntitySchema.Document.Check
import EntitySchema.Document.Codec
import EntitySchema.Document.Names
import EntitySchema.Files.Basic
import EntitySchema.Files.Layout
import EntitySchema.Json.Codec
import EntitySchema.Json.Fault
import EntitySchema.Json.Lexeme
import EntitySchema.Json.Record
import EntitySchema.Json.Tree
import EntitySchema.Json.Value
import EntitySchema.Keyed
import EntitySchema.Model.Agreement
import EntitySchema.Model.Basic
import EntitySchema.Model.Build
import EntitySchema.Model.Strict
import EntitySchema.Model.Text
import EntitySchema.Outcome
import EntitySchema.Pattern.Basic
import EntitySchema.Pattern.CharClass
import EntitySchema.Pattern.Count
import EntitySchema.Pattern.Escape
import EntitySchema.Pattern.Expr
import EntitySchema.Pattern.Fault
import EntitySchema.Pattern.Group
import EntitySchema.Pattern.Reader
import EntitySchema.Pattern.Scan
import EntitySchema.Problem
import EntitySchema.Proofs.Acceptance
import EntitySchema.Proofs.Agreement
import EntitySchema.Proofs.Annotations
import EntitySchema.Proofs.Bounds
import EntitySchema.Proofs.Build
import EntitySchema.Proofs.Builders
import EntitySchema.Proofs.Concatenation
import EntitySchema.Proofs.Correspondence
import EntitySchema.Proofs.Decoding
import EntitySchema.Proofs.Description
import EntitySchema.Proofs.Files
import EntitySchema.Proofs.Grammar
import EntitySchema.Proofs.Json.Assembling
import EntitySchema.Proofs.Json.Grammar
import EntitySchema.Proofs.Json.Lexing
import EntitySchema.Proofs.Json.Literals
import EntitySchema.Proofs.Json.MemberOrder
import EntitySchema.Proofs.Json.Parsing
import EntitySchema.Proofs.Json.ReadBack
import EntitySchema.Proofs.Json.Replacement
import EntitySchema.Proofs.Json.Scanning
import EntitySchema.Proofs.Json.Sources
import EntitySchema.Proofs.Json.Symbols
import EntitySchema.Proofs.MemberEdits
import EntitySchema.Proofs.Observation
import EntitySchema.Proofs.Orders
import EntitySchema.Proofs.Overriding
import EntitySchema.Proofs.Pattern.LookAround
import EntitySchema.Proofs.Pattern.Rounds
import EntitySchema.Proofs.References
import EntitySchema.Proofs.Refusals
import EntitySchema.Proofs.Rendering
import EntitySchema.Proofs.Reordering
import EntitySchema.Proofs.ReservedFields
import EntitySchema.Proofs.Resolution
import EntitySchema.Proofs.Respelling
import EntitySchema.Proofs.Spelling
import EntitySchema.Proofs.Substitution
import EntitySchema.Proofs.Tables
import EntitySchema.Proofs.Targets
import EntitySchema.Proofs.Technologies
import EntitySchema.Proofs.Traversal
import EntitySchema.Proofs.Violations
import EntitySchema.Proofs.Vocabulary
import EntitySchema.Proofs.WellFormed
import EntitySchema.Proofs.WellTyped
import EntitySchema.Text.Characters
import EntitySchema.Text.Pascal
import EntitySchema.Text.Quoted
import EntitySchema.Vocabulary.Argument
import EntitySchema.Vocabulary.Cardinality
import EntitySchema.Vocabulary.Directive
import EntitySchema.Vocabulary.FieldType
import EntitySchema.Vocabulary.Storage
