import ModelCompiler.Code.Align
import ModelCompiler.Code.Condition
import ModelCompiler.Code.Directive
import ModelCompiler.Code.Format
import ModelCompiler.Code.Grammar.Basic
import ModelCompiler.Code.Grammar.Declarations
import ModelCompiler.Code.Grammar.Expressions
import ModelCompiler.Code.Grammar.Programs
import ModelCompiler.Code.Grammar.Statements
import ModelCompiler.Code.Grammar.Types
import ModelCompiler.Code.Imports
import ModelCompiler.Code.Layout.Declarations
import ModelCompiler.Code.Layout.Expressions
import ModelCompiler.Code.Layout.Lists
import ModelCompiler.Code.Layout.Statements
import ModelCompiler.Code.Literal
import ModelCompiler.Code.Margin
import ModelCompiler.Code.Place
import ModelCompiler.Code.Placement
import ModelCompiler.Code.Prose.Block
import ModelCompiler.Code.Prose.Reference
import ModelCompiler.Code.Prose.Text
import ModelCompiler.Code.Sheet
import ModelCompiler.Code.Sheet.Comments
import ModelCompiler.Code.Token
import ModelCompiler.Code.Tokens
import ModelCompiler.Code.Tree
import ModelCompiler.Command.Listing
import ModelCompiler.Command.Run
import ModelCompiler.Diagnostic.Basic
import ModelCompiler.Diagnostic.Journal
import ModelCompiler.Element.Basic
import ModelCompiler.Element.Document
import ModelCompiler.Element.Graph
import ModelCompiler.Element.Session
import ModelCompiler.Files.Basic
import ModelCompiler.Files.Path
import ModelCompiler.Files.Tree
import ModelCompiler.Main
import ModelCompiler.Markup.CharacterData
import ModelCompiler.Markup.Name
import ModelCompiler.Markup.Token
import ModelCompiler.Model.Basic
import ModelCompiler.Model.Classify
import ModelCompiler.Model.Conventions
import ModelCompiler.Model.Hierarchy
import ModelCompiler.Model.Selection
import ModelCompiler.Model.Stereotype
import ModelCompiler.Model.Tables
import ModelCompiler.Naming.Distance
import ModelCompiler.Naming.Ranking
import ModelCompiler.Naming.Words
import ModelCompiler.Override.Basic
import ModelCompiler.Override.Document
import ModelCompiler.Plan.Association
import ModelCompiler.Plan.Attribute
import ModelCompiler.Plan.Basic
import ModelCompiler.Plan.Emission
import ModelCompiler.Plan.End
import ModelCompiler.Plan.Multiplicity
import ModelCompiler.Plan.Resolve
import ModelCompiler.Plan.Tags
import ModelCompiler.Plan.Union
import ModelCompiler.Proofs.Model.Identity
import ModelCompiler.Proofs.Plan.Collecting
import ModelCompiler.Proofs.Plan.Resolution
import ModelCompiler.Proofs.Plan.Roles
import ModelCompiler.Proofs.Source.Assembly
import ModelCompiler.Proofs.Source.Order
import ModelCompiler.Proofs.Source.Recording
import ModelCompiler.Schema.Basic
import ModelCompiler.Schema.Property
import ModelCompiler.Settings.Basic
import ModelCompiler.Settings.Environment
import ModelCompiler.Settings.Flag
import ModelCompiler.Settings.Statement
import ModelCompiler.Settings.Usage
import ModelCompiler.Sorting
import ModelCompiler.Source.Assembly
import ModelCompiler.Source.Draft
import ModelCompiler.Source.File
import ModelCompiler.Source.Generate
import ModelCompiler.Source.Identifier
import ModelCompiler.Source.Order
import ModelCompiler.Source.Recording
import ModelCompiler.Source.Session
import ModelCompiler.Source.Term
import ModelCompiler.Source.Text
import ModelCompiler.Text.Blank
import ModelCompiler.Text.Case
import ModelCompiler.Text.CharClass
import ModelCompiler.Text.Decimal
import ModelCompiler.Text.Label
import ModelCompiler.Text.Letter
import ModelCompiler.Text.Pieces
import ModelCompiler.Text.Printable
import ModelCompiler.Text.Punctuation
import ModelCompiler.Text.Quoted
import ModelCompiler.Text.Utf8
import ModelCompiler.Yaml.Base64
import ModelCompiler.Yaml.Cursor
import ModelCompiler.Yaml.Meaning
import ModelCompiler.Yaml.Node
import ModelCompiler.Yaml.Number
import ModelCompiler.Yaml.Printer
import ModelCompiler.Yaml.Scalar
import ModelCompiler.Yaml.Style
import ModelCompiler.Yaml.Tag
import ModelCompiler.Yaml.Timestamp
import ModelCompiler.Yaml.Token
import ModelCompiler.Yaml.Value
import ModelCompiler.Proofs.Source.Supertypes
import ModelCompiler.Proofs.Schema.Declarations
import ModelCompiler.Proofs.Text.Quoting
import ModelCompiler.Proofs.Source.Expression
import ModelCompiler.Proofs.Source.Lexing
import ModelCompiler.Proofs.Source.Reading
import ModelCompiler.Proofs.Source.Printing
import ModelCompiler.Proofs.Source.Running
import ModelCompiler.Proofs.Source.Descriptors
import ModelCompiler.Proofs.Source.Declared
import ModelCompiler.Proofs.Plan.Members
import ModelCompiler.Proofs.Source.Unions
import ModelCompiler.Proofs.Plan.Frame
import ModelCompiler.Proofs.Plan.Strictness
import ModelCompiler.Proofs.Plan.Retention
import ModelCompiler.Proofs.Model.Reordering
import ModelCompiler.Proofs.Plan.Reordering
import ModelCompiler.Proofs.Source.Omissions
import ModelCompiler.Proofs.Source.Closure
import ModelCompiler.Proofs.Markup.Tree
import ModelCompiler.Proofs.Element.Fields
import ModelCompiler.Proofs.Element.Document
import ModelCompiler.Proofs.Element.Finished
import ModelCompiler.Proofs.Element.Session
import ModelCompiler.Proofs.Element.Steps
import ModelCompiler.Proofs.Files.Tree
import ModelCompiler.Proofs.Command.Independence
import ModelCompiler.Proofs.Source.LeastOrder
import ModelCompiler.Proofs.Model.Walk
import ModelCompiler.Proofs.Model.Propagation
import ModelCompiler.Proofs.Plan.Acceptance
import ModelCompiler.Proofs.Source.Counting
import ModelCompiler.Proofs.Source.Cycles
import ModelCompiler.Proofs.Plan.Subsettings
import ModelCompiler.Proofs.Plan.Faults
import ModelCompiler.Proofs.Plan.Features
import ModelCompiler.Proofs.Model.Linking
import ModelCompiler.Proofs.Model.Links
import ModelCompiler.Proofs.Source.Greedy
import ModelCompiler.Proofs.Source.Identifiers
import ModelCompiler.Proofs.Source.References
import ModelCompiler.Proofs.Naming.Distance
import ModelCompiler.Proofs.Schema.Lookup
import ModelCompiler.Proofs.Source.Repetitions
import ModelCompiler.Proofs.Source.CommentLines
import ModelCompiler.Proofs.Schema.Redefinitions
import ModelCompiler.Proofs.Plan.Tags
import ModelCompiler.Proofs.Naming.Scores
import ModelCompiler.Proofs.Naming.Ranking
import ModelCompiler.Proofs.Yaml.Values
import ModelCompiler.Proofs.Override.Effects
import ModelCompiler.Proofs.Naming.Words
import ModelCompiler.Proofs.Naming.Spelling
import ModelCompiler.Proofs.Source.Interleaving
import ModelCompiler.Proofs.Model.Tables
