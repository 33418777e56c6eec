import Quire.Backend
import Quire.Command.Arguments
import Quire.Command.Reach
import Quire.Command.Run
import Quire.Command.Settings
import Quire.Converter.Assembly
import Quire.Converter.Basic
import Quire.Converter.Builtin
import Quire.Converter.Document
import Quire.Converter.Error
import Quire.Converter.Registry
import Quire.Dictionary
import Quire.Files.Path
import Quire.Files.Tree
import Quire.Host
import Quire.Json.Basic
import Quire.Json.Error
import Quire.Json.Numeral
import Quire.Json.Reader
import Quire.Json.Record
import Quire.Json.Scan
import Quire.Json.Skip
import Quire.Main
import Quire.Markup.DocBook
import Quire.Markup.Escape
import Quire.Markup.Html5
import Quire.Node.Basic
import Quire.Node.Body
import Quire.Node.Json
import Quire.Node.Kind
import Quire.Number.Binary64
import Quire.Number.Decimal
import Quire.Number.Shortest
import Quire.Options.Basic
import Quire.Options.Json
import Quire.Proofs.Template.Layer
import Quire.Template.Engine
import Quire.Template.Language.Engine
import Quire.Template.Language.Expression
import Quire.Template.Language.Filter
import Quire.Template.Language.Reader
import Quire.Template.Language.Render
import Quire.Template.Language.Value
import Quire.Template.Language.ValuePath
import Quire.Template.Layer
import Quire.Template.Search
import Quire.Text.Blank
import Quire.Text.Case
import Quire.Text.Case.Table
import Quire.Text.Lines
import Quire.Text.Quoted
import Quire.Text.Quoted.Table
import Quire.Text.Replace
import Quire.Toml.Basic
import Quire.Toml.Reader
import Quire.Toml.Scalar
import Quire.Troff.Escape
import Quire.Troff.ManPage
import Quire.Proofs.Converter.Graph
import Quire.Proofs.Template.Snapshot
import Quire.Proofs.Converter.Override
import Quire.Proofs.Files.Lookup
import Quire.Proofs.Files.Location
import Quire.Proofs.Files.Writing
import Quire.Proofs.Template.Search
import Quire.Proofs.Node.Order
import Quire.Proofs.Node.Shown
import Quire.Proofs.Json.Tokens
import Quire.Proofs.Json.Values
import Quire.Proofs.Json.Records
import Quire.Proofs.Node.RoundTrip
import Quire.Proofs.Converter.Agreement
import Quire.Proofs.Converter.Recording
import Quire.Proofs.Converter.Routing
import Quire.Proofs.Converter.Walk
import Quire.Proofs.Markup.Inert
import Quire.Proofs.Markup.Injection
import Quire.Proofs.Markup.Tag
import Quire.Proofs.Markup.Nesting
import Quire.Proofs.Markup.Texts
import Quire.Proofs.Markup.Versions
import Quire.Proofs.Converter.Rendering
import Quire.Proofs.Troff.Harmless
import Quire.Proofs.Troff.Arguments
import Quire.Proofs.Troff.Environments
import Quire.Proofs.Command.Resolve
import Quire.Proofs.Command.Spelling
import Quire.Proofs.Converter.Installed
import Quire.Proofs.Converter.Registration
import Quire.Proofs.Command.Stages
import Quire.Proofs.Template.Compilations
import Quire.Proofs.Troff.Rows
import Quire.Proofs.Template.Containment
import Quire.Proofs.Json.Skipping
import Quire.Proofs.Json.Decoding
import Quire.Proofs.Options.RoundTrip
import Quire.Proofs.Troff.Lines
import Quire.Proofs.Text.Written
import Quire.Proofs.Markup.Unescape
import Quire.Proofs.Converter.Headings
import Quire.Proofs.Command.Explanation
import Quire.Proofs.Converter.Renaming
import Quire.Proofs.Converter.Attributes
