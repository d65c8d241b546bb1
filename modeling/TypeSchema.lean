import TypeSchema.Batch
import TypeSchema.Command.Arguments
import TypeSchema.Command.Memory
import TypeSchema.Command.Run
import TypeSchema.Command.System
import TypeSchema.Command.Usage
import TypeSchema.Config
import TypeSchema.Derive.Code
import TypeSchema.Derive.Expansion
import TypeSchema.Description
import TypeSchema.Descriptor
import TypeSchema.Descriptor.Outline
import TypeSchema.Descriptor.Reachable
import TypeSchema.Doc
import TypeSchema.Error
import TypeSchema.Generation
import TypeSchema.Json.Printer
import TypeSchema.Json.Reader
import TypeSchema.Json.Value
import TypeSchema.Log
import TypeSchema.Main
import TypeSchema.Manifest
import TypeSchema.Model.Generation
import TypeSchema.Model.Registration
import TypeSchema.Model.Table
import TypeSchema.Model.Template
import TypeSchema.Model.TypeExpr
import TypeSchema.OrderedMap
import TypeSchema.Proofs.Attempt
import TypeSchema.Proofs.Batch
import TypeSchema.Proofs.Batch.Account
import TypeSchema.Proofs.Batch.Independence
import TypeSchema.Proofs.Batch.Success
import TypeSchema.Proofs.Derive.Agreement
import TypeSchema.Proofs.Derive.Attributes
import TypeSchema.Proofs.Derive.Default
import TypeSchema.Proofs.Derive.Expansion
import TypeSchema.Proofs.Derive.Readers
import TypeSchema.Proofs.Derive.Verdict
import TypeSchema.Proofs.Descriptor.Coherence
import TypeSchema.Proofs.Descriptor.Cycle
import TypeSchema.Proofs.Descriptor.Morphism
import TypeSchema.Proofs.Descriptor.Trail
import TypeSchema.Proofs.Doc.Comments
import TypeSchema.Proofs.Doc.Fields
import TypeSchema.Proofs.Doc.Grammar
import TypeSchema.Proofs.Doc.Writing
import TypeSchema.Proofs.Generation.Depth
import TypeSchema.Proofs.Generation.Documentation
import TypeSchema.Proofs.Generation.FirstDefect
import TypeSchema.Proofs.Generation.Image
import TypeSchema.Proofs.Generation.Places
import TypeSchema.Proofs.Generation.Recursion
import TypeSchema.Proofs.Generation.Required
import TypeSchema.Proofs.Generation.Safety
import TypeSchema.Proofs.Generation.Step
import TypeSchema.Proofs.Manifest
import TypeSchema.Proofs.Model.Identity
import TypeSchema.Proofs.Model.Registration
import TypeSchema.Proofs.Model.Standard
import TypeSchema.Proofs.Model.Verdict
import TypeSchema.Proofs.Model.Written
import TypeSchema.Proofs.Schema.Decoding
import TypeSchema.Proofs.Source.Arguments
import TypeSchema.Proofs.Source.Collect
import TypeSchema.Proofs.Source.Definition
import TypeSchema.Proofs.Source.Documentation
import TypeSchema.Proofs.Source.Ensures
import TypeSchema.Proofs.Source.Keys
import TypeSchema.Proofs.Source.Layout
import TypeSchema.Proofs.Source.Meaning
import TypeSchema.Proofs.Source.Parser
import TypeSchema.Proofs.Source.ProperItems
import TypeSchema.Proofs.Source.ProperTypes
import TypeSchema.Proofs.Source.Requests
import TypeSchema.Proofs.Source.Selection
import TypeSchema.Proofs.Source.Spelling
import TypeSchema.Proofs.Source.Tokens
import TypeSchema.Proofs.Source.Types
import TypeSchema.Proofs.Text.Words
import TypeSchema.Proofs.TypeRef.Identity
import TypeSchema.Proofs.TypeRef.Naming
import TypeSchema.Proofs.TypeRef.Nesting
import TypeSchema.Proofs.TypeRef.Qualified
import TypeSchema.Proofs.Validation.FirstDefect
import TypeSchema.Proofs.Validation.History
import TypeSchema.Proofs.Validation.Nesting
import TypeSchema.Proofs.Validation.Record
import TypeSchema.Proofs.Validation.Transparency
import TypeSchema.Proofs.Validation.Walk
import TypeSchema.Registry
import TypeSchema.Schema
import TypeSchema.Settings
import TypeSchema.Source.Definition
import TypeSchema.Source.Grammar
import TypeSchema.Source.Grammar.Expression
import TypeSchema.Source.Grammar.Item
import TypeSchema.Source.Grammar.Operator
import TypeSchema.Source.Grammar.Path
import TypeSchema.Source.Grammar.Pattern
import TypeSchema.Source.Grammar.Rules
import TypeSchema.Source.Grammar.Type
import TypeSchema.Source.Lexer
import TypeSchema.Source.Literal
import TypeSchema.Source.Meta
import TypeSchema.Source.Parser
import TypeSchema.Source.Syntax
import TypeSchema.Source.Table
import TypeSchema.Source.Token
import TypeSchema.Source.TypeReading
import TypeSchema.Text.Blank
import TypeSchema.Text.CodePoints
import TypeSchema.Text.FilePath
import TypeSchema.Text.Identifier
import TypeSchema.Text.Printable
import TypeSchema.Text.Quoted
import TypeSchema.Toml.Reader
import TypeSchema.Toml.Scalar
import TypeSchema.Toml.Section
import TypeSchema.Toml.Text
import TypeSchema.Toml.Value
import TypeSchema.TypeRef
import TypeSchema.Validation
