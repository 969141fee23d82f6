import GraphQuery.Argument
import GraphQuery.Argument.Coercion
import GraphQuery.Argument.Kind
import GraphQuery.Client
import GraphQuery.CommandLine.Arguments
import GraphQuery.CommandLine.Command
import GraphQuery.CommandLine.Help
import GraphQuery.CommandLine.Network
import GraphQuery.CommandLine.Run
import GraphQuery.Decimal.Binary
import GraphQuery.Decimal.Layout
import GraphQuery.Decimal.Numeral
import GraphQuery.Decimal.Shortest
import GraphQuery.Declaration
import GraphQuery.Declaration.Annotation
import GraphQuery.Declaration.Key
import GraphQuery.Failure
import GraphQuery.Http.Header
import GraphQuery.Http.Message
import GraphQuery.Http.Status
import GraphQuery.Http.Wire
import GraphQuery.Json
import GraphQuery.Json.Cursor
import GraphQuery.Json.Fault
import GraphQuery.Json.Numeral
import GraphQuery.Json.Printer
import GraphQuery.Json.Punctuation
import GraphQuery.Json.Reader
import GraphQuery.Json.Shape
import GraphQuery.Json.Shape.Decoder
import GraphQuery.Json.Shape.Reader
import GraphQuery.Json.Skip
import GraphQuery.Json.StringBody
import GraphQuery.Keyed
import GraphQuery.Main
import GraphQuery.Method
import GraphQuery.Operation
import GraphQuery.Operation.Path
import GraphQuery.Proofs.Argument.Coercion
import GraphQuery.Proofs.Client.Precedence
import GraphQuery.Proofs.CommandLine.Exchange
import GraphQuery.Proofs.CommandLine.Printing
import GraphQuery.Proofs.Compilation.Arguments
import GraphQuery.Proofs.Compilation.Assembly
import GraphQuery.Proofs.Compilation.Cycle
import GraphQuery.Proofs.Compilation.Declarations
import GraphQuery.Proofs.Compilation.Origin
import GraphQuery.Proofs.Compilation.Pruning
import GraphQuery.Proofs.Compilation.Run
import GraphQuery.Proofs.Compilation.Success
import GraphQuery.Proofs.Compilation.Unfolding
import GraphQuery.Proofs.Compilation.Usage
import GraphQuery.Proofs.Decimal.Integer
import GraphQuery.Proofs.Declaration.Faults
import GraphQuery.Proofs.Declaration.Grammar
import GraphQuery.Proofs.Declaration.Layout
import GraphQuery.Proofs.Declaration.Reading
import GraphQuery.Proofs.Declaration.Rearrangement
import GraphQuery.Proofs.Declaration.Regrouping
import GraphQuery.Proofs.Document.Header
import GraphQuery.Proofs.Document.Outline
import GraphQuery.Proofs.Document.Reading
import GraphQuery.Proofs.Json.Agreement
import GraphQuery.Proofs.Json.Cursor
import GraphQuery.Proofs.Json.Members
import GraphQuery.Proofs.Json.Shape.Edit
import GraphQuery.Proofs.Json.Shape.Encoding
import GraphQuery.Proofs.Json.Shape.Fields
import GraphQuery.Proofs.Json.Shape.Leaf
import GraphQuery.Proofs.Json.Shape.Meaning
import GraphQuery.Proofs.Json.Shape.Reading
import GraphQuery.Proofs.Json.Shape.Record
import GraphQuery.Proofs.Json.Shape.Unrepeated
import GraphQuery.Proofs.Json.Skip
import GraphQuery.Proofs.Json.Tree
import GraphQuery.Proofs.Keyed
import GraphQuery.Proofs.Operation.Address
import GraphQuery.Proofs.Operation.Assignment
import GraphQuery.Proofs.Operation.Context
import GraphQuery.Proofs.Operation.Frame
import GraphQuery.Proofs.Operation.Injection
import GraphQuery.Proofs.Operation.Place
import GraphQuery.Proofs.Operation.Resolution
import GraphQuery.Proofs.Outcome
import GraphQuery.Proofs.Replay
import GraphQuery.Proofs.Request.Coherence
import GraphQuery.Proofs.Request.Construction
import GraphQuery.Proofs.Response.Classification
import GraphQuery.Proofs.Response.Envelope
import GraphQuery.Proofs.Response.Errors
import GraphQuery.Proofs.Response.Irrelevance
import GraphQuery.Proofs.Separation
import GraphQuery.Proofs.Text.Blank
import GraphQuery.Proofs.Text.Name
import GraphQuery.Proofs.Text.Nesting
import GraphQuery.Proofs.Text.Quoted
import GraphQuery.Proofs.Value.Literal
import GraphQuery.Proofs.Value.Printable
import GraphQuery.Proofs.Value.Reader
import GraphQuery.Proofs.Value.Reading
import GraphQuery.Property
import GraphQuery.Request
import GraphQuery.Response
import GraphQuery.Schema
import GraphQuery.Schema.Compilation
import GraphQuery.ServerError
import GraphQuery.Text.Alphanumeric
import GraphQuery.Text.Blank
import GraphQuery.Text.Boundaries
import GraphQuery.Text.Camel
import GraphQuery.Text.CodeSpan
import GraphQuery.Text.Composition
import GraphQuery.Text.Composition.Class
import GraphQuery.Text.Composition.Pair
import GraphQuery.Text.Composition.Syllable
import GraphQuery.Text.ControlSequence
import GraphQuery.Text.Direction
import GraphQuery.Text.Display
import GraphQuery.Text.Hexadecimal
import GraphQuery.Text.Joined
import GraphQuery.Text.Joining
import GraphQuery.Text.LetterCase
import GraphQuery.Text.Mark
import GraphQuery.Text.Punycode
import GraphQuery.Text.Quoted
import GraphQuery.Text.Styled
import GraphQuery.Text.Utf8
import GraphQuery.Url
import GraphQuery.Url.Domain
import GraphQuery.Url.Domain.Mapping
import GraphQuery.Url.Domain.Table
import GraphQuery.Url.Host
import GraphQuery.Url.Percent
import GraphQuery.Url.Problem
import GraphQuery.Url.Reader
import GraphQuery.Value
import GraphQuery.Value.Literal
