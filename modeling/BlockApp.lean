import BlockApp.Backup.Archive.Directory
import BlockApp.Backup.Archive.Entry
import BlockApp.Backup.Basic
import BlockApp.Backup.Encrypted
import BlockApp.Backup.Folder
import BlockApp.Backup.Framed
import BlockApp.Bytes.Basic
import BlockApp.Bytes.CodePage437
import BlockApp.Bytes.Utf8
import BlockApp.Bzip2.Bits
import BlockApp.Bzip2.Block
import BlockApp.Bzip2.Code
import BlockApp.Bzip2.Stream
import BlockApp.Bzip2.Transform
import BlockApp.Cell.Attributes
import BlockApp.Cell.Basic
import BlockApp.Cell.Parameters
import BlockApp.Cipher.Aes
import BlockApp.Cipher.Chaining
import BlockApp.Cipher.Padding
import BlockApp.Command.Arguments
import BlockApp.Command.Basic
import BlockApp.Console.Color
import BlockApp.Console.Literal
import BlockApp.Console.Markup
import BlockApp.Console.Style
import BlockApp.Console.Token
import BlockApp.Decompile.Artifacts
import BlockApp.Decompile.Basic
import BlockApp.Decompile.Selection
import BlockApp.Deflate.Huffman
import BlockApp.Deflate.Inflate
import BlockApp.Deflate.Zlib
import BlockApp.Disk.Basic
import BlockApp.Disk.Path
import BlockApp.Failure.Backup
import BlockApp.Failure.Basic
import BlockApp.Failure.SectionText
import BlockApp.Failure.Trees
import BlockApp.Layout.Attribute
import BlockApp.Layout.Document
import BlockApp.Layout.Element
import BlockApp.Layout.Markup
import BlockApp.Log.Basic
import BlockApp.Log.Level
import BlockApp.Logic.Block
import BlockApp.Logic.Declaration
import BlockApp.Logic.Event
import BlockApp.Logic.Expr
import BlockApp.Logic.Nest
import BlockApp.Logic.Section
import BlockApp.Logic.Tree
import BlockApp.Lzma.Coder
import BlockApp.Lzma.Stream
import BlockApp.Lzma.Token
import BlockApp.Main
import BlockApp.Project.Basic
import BlockApp.Project.File
import BlockApp.Project.Library
import BlockApp.Project.Metadata
import BlockApp.Project.Resource
import BlockApp.Proofs.Backup.Encrypted
import BlockApp.Proofs.Backup.Folder
import BlockApp.Proofs.Backup.Framed
import BlockApp.Proofs.Backup.Places
import BlockApp.Proofs.Backup.Probe
import BlockApp.Proofs.Backup.Stops
import BlockApp.Proofs.Backup.Truncation
import BlockApp.Proofs.Backup.Unpack
import BlockApp.Proofs.Brackets.Class
import BlockApp.Proofs.Brackets.Code
import BlockApp.Proofs.Brackets.Scan
import BlockApp.Proofs.Bytes.Utf8
import BlockApp.Proofs.Bytes.WellFormed
import BlockApp.Proofs.Cell.AttributeCell
import BlockApp.Proofs.Cell.Attributes
import BlockApp.Proofs.Cell.EscapedText
import BlockApp.Proofs.Cell.Grammar
import BlockApp.Proofs.Cell.Print
import BlockApp.Proofs.Cell.Reader
import BlockApp.Proofs.Cipher.Aes
import BlockApp.Proofs.Class.Faults
import BlockApp.Proofs.Class.Functions
import BlockApp.Proofs.Class.Methods
import BlockApp.Proofs.Class.Parts
import BlockApp.Proofs.Class.References
import BlockApp.Proofs.Class.Signatures
import BlockApp.Proofs.Class.Texts
import BlockApp.Proofs.Class.Views
import BlockApp.Proofs.Decompile.Artifacts
import BlockApp.Proofs.Decompile.Brackets
import BlockApp.Proofs.Decompile.Classes
import BlockApp.Proofs.Decompile.Coverage
import BlockApp.Proofs.Decompile.Extract
import BlockApp.Proofs.Decompile.Failures
import BlockApp.Proofs.Decompile.Interleaving
import BlockApp.Proofs.Decompile.OneLine
import BlockApp.Proofs.Decompile.Restriction
import BlockApp.Proofs.Decompile.Run
import BlockApp.Proofs.Disk.Files
import BlockApp.Proofs.Disk.Walk
import BlockApp.Proofs.Layout.Attributes
import BlockApp.Proofs.Layout.Escape
import BlockApp.Proofs.Layout.Nodes
import BlockApp.Proofs.Layout.Places
import BlockApp.Proofs.Layout.Reader
import BlockApp.Proofs.Layout.Roundtrip
import BlockApp.Proofs.Layout.Size
import BlockApp.Proofs.Layout.Translation
import BlockApp.Proofs.Logic.Interleaving
import BlockApp.Proofs.Logic.Keys
import BlockApp.Proofs.Logic.Reading
import BlockApp.Proofs.Logic.WellFormed
import BlockApp.Proofs.Method.Braces
import BlockApp.Proofs.Method.Counters
import BlockApp.Proofs.Method.Expression
import BlockApp.Proofs.Method.Levels
import BlockApp.Proofs.Method.OneLine
import BlockApp.Proofs.Method.Records
import BlockApp.Proofs.Method.Rendering
import BlockApp.Proofs.Nesting.Depth
import BlockApp.Proofs.Nesting.Handler
import BlockApp.Proofs.Nesting.Lossless
import BlockApp.Proofs.Nesting.Rebuild
import BlockApp.Proofs.Nesting.Rows
import BlockApp.Proofs.Nesting.Step
import BlockApp.Proofs.Nesting.Valid
import BlockApp.Proofs.Outcome
import BlockApp.Proofs.Project.Colors
import BlockApp.Proofs.Project.Metadata
import BlockApp.Proofs.Project.Tokens
import BlockApp.Proofs.Scope.Run
import BlockApp.Proofs.Scope.Site
import BlockApp.Proofs.Section.Color
import BlockApp.Proofs.Section.Entries
import BlockApp.Proofs.Section.Lines
import BlockApp.Proofs.Section.PackedColor
import BlockApp.Proofs.Section.Readers
import BlockApp.Proofs.Section.Reports
import BlockApp.Proofs.Section.Stepwise
import BlockApp.Proofs.Section.Tokens
import BlockApp.Proofs.Source.Literal
import BlockApp.Proofs.Store.Confined
import BlockApp.Proofs.Store.History
import BlockApp.Proofs.Store.Key
import BlockApp.Proofs.Store.Listing
import BlockApp.Proofs.Store.Put
import BlockApp.Proofs.Tables.Class
import BlockApp.Proofs.Tables.Code
import BlockApp.Proofs.Tables.Format
import BlockApp.Proofs.Tables.Listener
import BlockApp.Proofs.Tables.Names
import BlockApp.Proofs.Tables.Project
import BlockApp.Proofs.View.Fields
import BlockApp.Proofs.View.Names
import BlockApp.Proofs.View.Rooted
import BlockApp.Proofs.View.Screen
import BlockApp.Proofs.View.Search
import BlockApp.Proofs.View.Tree
import BlockApp.Proofs.View.Walk
import BlockApp.Report.Basic
import BlockApp.Section.Cells
import BlockApp.Section.Color
import BlockApp.Section.Framing
import BlockApp.Section.Name
import BlockApp.Settings.Basic
import BlockApp.Source.ActivityClass
import BlockApp.Source.Expression
import BlockApp.Source.Field
import BlockApp.Source.Line
import BlockApp.Source.Listener
import BlockApp.Source.Literal
import BlockApp.Source.Method
import BlockApp.Source.Table
import BlockApp.Source.Template
import BlockApp.Store.Basic
import BlockApp.Text.Blank
import BlockApp.Text.Escape
import BlockApp.Text.Hex
import BlockApp.Text.Lower
import BlockApp.Text.Name
import BlockApp.Text.Numeral
import BlockApp.Text.Printable
import BlockApp.Text.Quoted
import BlockApp.Text.Ranges
import BlockApp.Text.Split
import BlockApp.Text.Upper
import BlockApp.Text.Word
import BlockApp.View.Attribute
import BlockApp.View.Component
import BlockApp.View.Index
import BlockApp.View.Section
import BlockApp.View.Tree
