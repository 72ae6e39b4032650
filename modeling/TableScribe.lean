import TableScribe.Command.Arguments
import TableScribe.Command.Run
import TableScribe.Decimal.Binary64
import TableScribe.Decimal.Layout
import TableScribe.Decimal.Shortest
import TableScribe.Document.Error
import TableScribe.Document.Naming
import TableScribe.Document.Path
import TableScribe.Document.PrimaryKey
import TableScribe.Document.Project
import TableScribe.Document.Reader
import TableScribe.Document.Traversal
import TableScribe.Entity.Entity
import TableScribe.Entity.Generation
import TableScribe.Entity.Settings
import TableScribe.Java.ColumnType
import TableScribe.Java.Comment
import TableScribe.Java.Declarations
import TableScribe.Java.Fragments
import TableScribe.Java.Identifier
import TableScribe.Java.Layout
import TableScribe.Java.Literal
import TableScribe.Java.Members
import TableScribe.Java.Scope
import TableScribe.Java.Unit
import TableScribe.Java.Views
import TableScribe.Json.Number
import TableScribe.Json.Record
import TableScribe.Json.Scan
import TableScribe.Json.Shape
import TableScribe.Json.Tree
import TableScribe.Main
import TableScribe.Model.Declaration
import TableScribe.Model.File
import TableScribe.Model.Fragment
import TableScribe.Model.Height
import TableScribe.Model.Kind
import TableScribe.Model.Member
import TableScribe.Model.Modifier
import TableScribe.Model.Node
import TableScribe.Model.TypeRef
import TableScribe.Proofs.Attempts
import TableScribe.Proofs.Command.Listing
import TableScribe.Proofs.Command.Rejection
import TableScribe.Proofs.Command.Validation
import TableScribe.Proofs.Document.Acceptance
import TableScribe.Proofs.Document.EnabledTables
import TableScribe.Proofs.Document.Format
import TableScribe.Proofs.Document.Preorder
import TableScribe.Proofs.Document.PrimaryKey
import TableScribe.Proofs.Document.Pruning
import TableScribe.Proofs.Document.RelativeNames
import TableScribe.Proofs.Document.Rereading
import TableScribe.Proofs.Document.TableSite
import TableScribe.Proofs.Document.Traversal
import TableScribe.Proofs.Entity.Accessors
import TableScribe.Proofs.Entity.Capture
import TableScribe.Proofs.Entity.Contents
import TableScribe.Proofs.Entity.DisabledKeys
import TableScribe.Proofs.Entity.Generation
import TableScribe.Proofs.Entity.ImportAgreement
import TableScribe.Proofs.Entity.Imports
import TableScribe.Proofs.Entity.Injection
import TableScribe.Proofs.Entity.KeyMarks
import TableScribe.Proofs.Entity.KeyReadings
import TableScribe.Proofs.Entity.NameSet
import TableScribe.Proofs.Entity.Options
import TableScribe.Proofs.Entity.PackagePaths
import TableScribe.Proofs.Entity.Packages
import TableScribe.Proofs.Entity.Paths
import TableScribe.Proofs.Entity.Pruning
import TableScribe.Proofs.Entity.References
import TableScribe.Proofs.Entity.TableEntity
import TableScribe.Proofs.Java.ColumnType
import TableScribe.Proofs.Java.CommentEnd
import TableScribe.Proofs.Java.CommentRows
import TableScribe.Proofs.Java.Constructors
import TableScribe.Proofs.Java.DecoratedType
import TableScribe.Proofs.Java.DistinctTypes
import TableScribe.Proofs.Java.Identifier
import TableScribe.Proofs.Java.IdentifierPart
import TableScribe.Proofs.Java.LegalNames
import TableScribe.Proofs.Java.Lexis
import TableScribe.Proofs.Java.Likeness
import TableScribe.Proofs.Java.ListedTypes
import TableScribe.Proofs.Java.Naming
import TableScribe.Proofs.Java.Overrides
import TableScribe.Proofs.Java.Parameters
import TableScribe.Proofs.Java.Placement
import TableScribe.Proofs.Java.PlainNodes
import TableScribe.Proofs.Java.PlainSource
import TableScribe.Proofs.Java.PlainText
import TableScribe.Proofs.Java.QualifiedNames
import TableScribe.Proofs.Java.Reading
import TableScribe.Proofs.Java.Reconversion
import TableScribe.Proofs.Java.Refusals
import TableScribe.Proofs.Java.SafeText
import TableScribe.Proofs.Java.Signs
import TableScribe.Proofs.Java.Silence
import TableScribe.Proofs.Java.Spelling
import TableScribe.Proofs.Java.StringLiteral
import TableScribe.Proofs.Java.TranslatedComment
import TableScribe.Proofs.Java.TypeText
import TableScribe.Proofs.Java.UnicodeEscapes
import TableScribe.Proofs.Java.WellFormed
import TableScribe.Proofs.Java.Words
import TableScribe.Proofs.Java.Writing
import TableScribe.Proofs.Json.Decoding
import TableScribe.Proofs.Json.Grammar
import TableScribe.Proofs.Json.Objects
import TableScribe.Proofs.Json.Records
import TableScribe.Proofs.Json.Scanning
import TableScribe.Proofs.Json.Spelling
import TableScribe.Proofs.Json.Tokens
import TableScribe.Proofs.Model.Deletion
import TableScribe.Proofs.Model.Height
import TableScribe.Proofs.Model.SimpleName
import TableScribe.Proofs.Model.TypeTree
import TableScribe.Proofs.Render.Building
import TableScribe.Proofs.Render.CallStack
import TableScribe.Proofs.Render.Contexts
import TableScribe.Proofs.Render.Coverage
import TableScribe.Proofs.Render.Descent
import TableScribe.Proofs.Render.Ensuring
import TableScribe.Proofs.Render.Evaluation
import TableScribe.Proofs.Render.Failing
import TableScribe.Proofs.Render.Guards
import TableScribe.Proofs.Render.Installing
import TableScribe.Proofs.Render.Lineage
import TableScribe.Proofs.Render.Moment
import TableScribe.Proofs.Render.Needs
import TableScribe.Proofs.Render.Passage
import TableScribe.Proofs.Render.Restoring
import TableScribe.Proofs.Render.Returning
import TableScribe.Proofs.Render.Templates
import TableScribe.Proofs.Storage.Components
import TableScribe.Proofs.Storage.Confinement
import TableScribe.Proofs.Storage.Creation
import TableScribe.Proofs.Storage.FileNode
import TableScribe.Proofs.Storage.Operations
import TableScribe.Proofs.Storage.Places
import TableScribe.Proofs.Storage.Segments
import TableScribe.Proofs.Storage.Writing
import TableScribe.Proofs.Text.AsciiCase
import TableScribe.Proofs.Text.Indentation
import TableScribe.Proofs.Text.Rows
import TableScribe.Proofs.Text.Segments
import TableScribe.Proofs.Text.Spans
import TableScribe.Proofs.Text.Trimming
import TableScribe.Proofs.Unicode.CaseClasses
import TableScribe.Proofs.Unicode.CaseImages
import TableScribe.Proofs.Unicode.Marks
import TableScribe.Render.Context
import TableScribe.Render.Error
import TableScribe.Render.Generator
import TableScribe.Render.PerKind
import TableScribe.Render.Registry
import TableScribe.Render.Template
import TableScribe.Render.View
import TableScribe.Storage.Disk
import TableScribe.Storage.Error
import TableScribe.Storage.FileNode
import TableScribe.Storage.FileSystem
import TableScribe.Storage.GeneratedFiles
import TableScribe.Storage.Path
import TableScribe.Text.AsciiCase
import TableScribe.Text.Blank
import TableScribe.Text.Indent
import TableScribe.Text.Segments
import TableScribe.Unicode.Alphanumeric
import TableScribe.Unicode.LetterCase
import TableScribe.Unicode.LowerText
import TableScribe.Unicode.Ranges
import TableScribe.Unicode.Visible
