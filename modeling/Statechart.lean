import Statechart.Files.Host
import Statechart.Diagram.Draft
import Statechart.Fence
import Statechart.Json.Reader
import Statechart.Workflow
import Statechart.Log.Room
import Statechart.Log.Logger
import Statechart.Log.Session
import Statechart.Document
import Statechart.Numeral.Lenient
import Statechart.Settings.Dotenv
import Statechart.Settings.Basic
import Statechart.Settings.Origins
import Statechart.CommandLine.Command
import Statechart.CommandLine.Grammar
import Statechart.CommandLine.Run
import Statechart.Service.Api
import Statechart.Main
import Statechart.Text.Punycode
import Statechart.Proofs.Text.Scan
import Statechart.Proofs.Catalog.Laws
import Statechart.Proofs.Diagram.Grammar
import Statechart.Proofs.Diagram.Views
import Statechart.Proofs.Diagram.Meaning
import Statechart.Proofs.Diagram.Closure
import Statechart.Proofs.Text.Pattern
import Statechart.Proofs.Fence.Block
import Statechart.Proofs.Fence.Search
import Statechart.Proofs.Diagram.Written
import Statechart.Proofs.Fence.NextFence
import Statechart.Proofs.Diagram.RoundTrip
import Statechart.Proofs.Json.RoundTrip
import Statechart.Proofs.Json.Descriptor
import Statechart.Proofs.Diagram.Trimming
import Statechart.Proofs.Document.Enclosed
import Statechart.Proofs.Diagram.Characters
import Statechart.Proofs.Service.Answers
import Statechart.Proofs.Text.LineEnds
import Statechart.Proofs.Text.Utf8
import Statechart.Proofs.Document.LineEnds
import Statechart.Proofs.Numeral.Lenient
import Statechart.Proofs.Catalog.Related
import Statechart.Proofs.Settings.LogLevel
import Statechart.Proofs.CommandLine.Documents
import Statechart.Proofs.CommandLine.Outcomes
import Statechart.Proofs.CommandLine.Contract
import Statechart.Proofs.CommandLine.Compose
import Statechart.Proofs.Service.Requests
import Statechart.Proofs.Service.Agreement
import Statechart.Proofs.Document.Ways
import Statechart.Proofs.Diagram.Growth
import Statechart.Proofs.Numeral.Digits
import Statechart.Proofs.Json.OneLine
import Statechart.Proofs.Log.Room
import Statechart.Proofs.Log.Line
import Statechart.Proofs.Log.Configuration
import Statechart.Proofs.Diagram.Rearranged
import Statechart.Proofs.Diagram.Increment
import Statechart.Proofs.Diagram.Arrows
import Statechart.Proofs.Diagram.Labels
import Statechart.Proofs.Diagram.Edges
import Statechart.Proofs.Text.MaximalRun
import Statechart.Proofs.Text.Committed
import Statechart.Proofs.Document.InitialMarker
import Statechart.Proofs.Text.WideWord
import Statechart.Proofs.Diagram.Patterns
import Statechart.Proofs.Diagram.Captures
import Statechart.Proofs.Diagram.WideWords
import Statechart.Proofs.CommandLine.Malformed
import Statechart.Proofs.Log.AsData
import Statechart.Proofs.Log.Data
import Statechart.Proofs.Log.Attributes
import Statechart.Proofs.Settings.Origins
