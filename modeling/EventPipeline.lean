import EventPipeline.Binary64
import EventPipeline.Binary64.Power
import EventPipeline.Binary64.Quotient
import EventPipeline.Binary64.Rounded
import EventPipeline.Binary64.Shortest
import EventPipeline.Clock
import EventPipeline.CommandLine
import EventPipeline.CommandLine.Arguments
import EventPipeline.Component
import EventPipeline.Component.Catalogue
import EventPipeline.Component.Standard
import EventPipeline.Diagnostic
import EventPipeline.Dictionary
import EventPipeline.Document
import EventPipeline.Document.Edit
import EventPipeline.Document.Interchange
import EventPipeline.Document.Loading
import EventPipeline.Document.Validation
import EventPipeline.Dot
import EventPipeline.Encoding
import EventPipeline.Encoding.Alphabet
import EventPipeline.Encoding.Detection
import EventPipeline.Encoding.Named
import EventPipeline.Encoding.Paired
import EventPipeline.Encoding.Utf16
import EventPipeline.Encoding.Utf8
import EventPipeline.EventName
import EventPipeline.FileTree
import EventPipeline.Json
import EventPipeline.Json.Parser
import EventPipeline.Json.Printer
import EventPipeline.Json.Shown
import EventPipeline.Lack
import EventPipeline.Lint
import EventPipeline.Log
import EventPipeline.Pointy.Grid
import EventPipeline.Pointy.Identifier
import EventPipeline.Pointy.Reader
import EventPipeline.Pointy.Token
import EventPipeline.Pointy.Writer
import EventPipeline.Proofs.Binary64.Decimal
import EventPipeline.Proofs.Binary64.Rounding
import EventPipeline.Proofs.Dictionary
import EventPipeline.Proofs.Document.Held
import EventPipeline.Proofs.Document.Objects
import EventPipeline.Proofs.Document.RoundTrip
import EventPipeline.Proofs.Document.Validation
import EventPipeline.Proofs.Encoding.Utf8
import EventPipeline.Proofs.FileTree
import EventPipeline.Proofs.Json.Number
import EventPipeline.Proofs.Json.Parsed
import EventPipeline.Proofs.Json.Printable
import EventPipeline.Proofs.Json.Quoted
import EventPipeline.Proofs.Json.RoundTrip
import EventPipeline.Proofs.Json.Value
import EventPipeline.Proofs.Pointy.Carried
import EventPipeline.Proofs.Pointy.Entries
import EventPipeline.Proofs.Pointy.Grid
import EventPipeline.Proofs.Pointy.Line
import EventPipeline.Proofs.Pointy.RoundTrip
import EventPipeline.Proofs.Result
import EventPipeline.Proofs.Store.Draft
import EventPipeline.Proofs.Store.Objects
import EventPipeline.Proofs.Store.Restart
import EventPipeline.Proofs.Store.Slot
import EventPipeline.Proofs.Store.WriteThrough
import EventPipeline.Proofs.Text.Lines
import EventPipeline.Script.Arithmetic
import EventPipeline.Script.Call
import EventPipeline.Script.Collection
import EventPipeline.Script.CollectionFunction
import EventPipeline.Script.Complex
import EventPipeline.Script.Construction
import EventPipeline.Script.Expression
import EventPipeline.Script.Fault
import EventPipeline.Script.Feature
import EventPipeline.Script.Fields
import EventPipeline.Script.Filling
import EventPipeline.Script.Given
import EventPipeline.Script.Identity
import EventPipeline.Script.Literal
import EventPipeline.Script.NumberFunction
import EventPipeline.Script.Numeral
import EventPipeline.Script.Operation
import EventPipeline.Script.Operator
import EventPipeline.Script.Order
import EventPipeline.Script.Pattern
import EventPipeline.Script.PatternText
import EventPipeline.Script.Reader.Basic
import EventPipeline.Script.Reader.Expression
import EventPipeline.Script.Reader.Statement
import EventPipeline.Script.Run
import EventPipeline.Script.Shown
import EventPipeline.Script.Source
import EventPipeline.Script.Standing
import EventPipeline.Script.StandingFunction
import EventPipeline.Script.Statement
import EventPipeline.Script.Template
import EventPipeline.Script.TextFunction
import EventPipeline.Script.Token
import EventPipeline.Script.Value
import EventPipeline.Script.ValueFault
import EventPipeline.Settings
import EventPipeline.Settings.Compiled
import EventPipeline.Settings.File
import EventPipeline.Store
import EventPipeline.Store.Backend
import EventPipeline.Store.Call
import EventPipeline.Store.Engine
import EventPipeline.Store.Engine.Function
import EventPipeline.Store.Engine.Lexer
import EventPipeline.Store.Engine.Lookup
import EventPipeline.Store.Engine.Recipe
import EventPipeline.Store.Engine.Settings
import EventPipeline.Store.Engine.Type
import EventPipeline.Store.Engine.Word
import EventPipeline.Store.Engine.Word.Draft
import EventPipeline.Store.Session
import EventPipeline.Store.Shelf
import EventPipeline.Store.Stream
import EventPipeline.Text
import EventPipeline.Text.CharacterName
import EventPipeline.Text.CharacterName.Ancient
import EventPipeline.Text.CharacterName.Letters
import EventPipeline.Text.CharacterName.Pictures
import EventPipeline.Text.CharacterName.Signs
import EventPipeline.Text.CodeTable
import EventPipeline.Text.Decomposition
import EventPipeline.Text.Digit
import EventPipeline.Text.NormalForm
import EventPipeline.Text.Numeral
import EventPipeline.Text.Quoted
import EventPipeline.Text.Raw
import EventPipeline.Text.Search
import EventPipeline.Text.Unprintable
import EventPipeline.Text.Upper
import EventPipeline.Text.Word
import EventPipeline.Main
import EventPipeline.Proofs.Text.Pairs
import EventPipeline.Proofs.Pointy.Reading
import EventPipeline.Proofs.Pointy.Warnings
import EventPipeline.Proofs.Pointy.Stability
import EventPipeline.Proofs.Pointy.Concatenation
import EventPipeline.Proofs.Document.WellFormed
import EventPipeline.Proofs.Store.WellFormed
import EventPipeline.Proofs.Pointy.Form
import EventPipeline.Proofs.Pointy.Remarks
import EventPipeline.Proofs.CommandLine.Conversion
import EventPipeline.Proofs.Store.Records
import EventPipeline.Proofs.Dot.Graph
import EventPipeline.Proofs.Pointy.Recognition
import EventPipeline.Proofs.Document.Connection
import EventPipeline.Proofs.Store.Throughout
import EventPipeline.Proofs.Pointy.Token
import EventPipeline.Proofs.Store.Alike
import EventPipeline.Proofs.Store.Connected
import EventPipeline.Proofs.Lint
import EventPipeline.Proofs.Pointy.Modes
import EventPipeline.Proofs.Pointy.Unterminated
import EventPipeline.Proofs.Document.Undone
import EventPipeline.Proofs.Store.Undone
import EventPipeline.Proofs.Pointy.Sorting
import EventPipeline.Proofs.Encoding.Utf16
import EventPipeline.Proofs.Encoding.Detection
import EventPipeline.Proofs.Document.Encoded
import EventPipeline.Proofs.Document.Rearranged
import EventPipeline.Proofs.Document.Independent
import EventPipeline.Proofs.Store.Independent
import EventPipeline.Proofs.Settings.Assignment
import EventPipeline.Proofs.Settings.Precedence
import EventPipeline.Proofs.CommandLine.Outcome
