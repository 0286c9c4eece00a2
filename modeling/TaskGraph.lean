import TaskGraph.Text.CodePoint
import TaskGraph.Text.Symbol
import TaskGraph.Text.Blank
import TaskGraph.Text.Lines
import TaskGraph.Text.Digit
import TaskGraph.Text.Numeral
import TaskGraph.Text.Printable
import TaskGraph.Text.Quoted
import TaskGraph.Text.Letter
import TaskGraph.Text.Capital
import TaskGraph.Text.Utf8
import TaskGraph.Text.Base64
import TaskGraph.Decimal.Binary64
import TaskGraph.Decimal.Shortest
import TaskGraph.Decimal.Notation
import TaskGraph.Calendar
import TaskGraph.Value.Basic
import TaskGraph.Value.Key
import TaskGraph.Value.Slots
import TaskGraph.Value.Text
import TaskGraph.Json.Fault
import TaskGraph.Files.Fault
import TaskGraph.Topology.Kind
import TaskGraph.Metis.Format
import TaskGraph.Metis.Fault
import TaskGraph.Error
import TaskGraph.Value.Access
import TaskGraph.Log
import TaskGraph.Json.Reader
import TaskGraph.Json.Writer
import TaskGraph.Yaml.Cursor
import TaskGraph.Yaml.Scalar.Plain
import TaskGraph.Yaml.Scalar.Quoted
import TaskGraph.Yaml.Scalar.Block
import TaskGraph.Yaml.Timestamp
import TaskGraph.Yaml.Tag
import TaskGraph.Text.Lower
import TaskGraph.Yaml.Scalar.Meaning
import TaskGraph.Yaml.Token
import TaskGraph.Yaml.Property
import TaskGraph.Yaml.Lexer
import TaskGraph.Yaml.Node
import TaskGraph.Yaml.Document
import TaskGraph.Yaml.Merge
import TaskGraph.Yaml.Construction
import TaskGraph.Yaml.Assembly
import TaskGraph.Yaml.Reader
import TaskGraph.Files.Path
import TaskGraph.Files.System
import TaskGraph.Files.Tree
import TaskGraph.Topology.Component
import TaskGraph.Topology.Basic
import TaskGraph.Topology.Stored
import TaskGraph.Topology.Call
import TaskGraph.Metis.Summary
import TaskGraph.Metis.Parser
import TaskGraph.Topology.Loading
import TaskGraph.Parallelism
import TaskGraph.Sorting.Search
import TaskGraph.Sorting.Merge
import TaskGraph.Sorting.Runs
import TaskGraph.Graph.Vertex
import TaskGraph.Graph.Edge
import TaskGraph.Graph.Register
import TaskGraph.Graph.Basic
import TaskGraph.Graph.Stored
import TaskGraph.Graph.Statistics
import TaskGraph.Graph.Call
import TaskGraph.Network
import TaskGraph.GraphMl
import TaskGraph.Metis.Request
import TaskGraph.Metis.Printer
import TaskGraph.Resolver.Session
import TaskGraph.Expansion
import TaskGraph.Export
import TaskGraph.Settings
import TaskGraph.Options
import TaskGraph.Platform
import TaskGraph.CommandLine
import TaskGraph.Main
import TaskGraph.Proofs.Outcome
import TaskGraph.Proofs.Failure
import TaskGraph.Proofs.Value.Access
import TaskGraph.Proofs.Text.Numeral
import TaskGraph.Proofs.Text.Lines
import TaskGraph.Proofs.Metis.Grammar
import TaskGraph.Proofs.Metis.LineReading
import TaskGraph.Proofs.Metis.Agreement
import TaskGraph.Proofs.Metis.Acceptance
import TaskGraph.Proofs.Metis.Stumbling
import TaskGraph.Proofs.Graph.Growth
import TaskGraph.Proofs.Graph.Reachable
import TaskGraph.Proofs.Graph.Adjacency
import TaskGraph.Proofs.Graph.Calls
import TaskGraph.Proofs.Metis.Contents
import TaskGraph.Proofs.Metis.Incidence
import TaskGraph.Proofs.Metis.LinePrinting
import TaskGraph.Proofs.Metis.NumberLines
import TaskGraph.Proofs.Metis.RoundTrip
import TaskGraph.Proofs.Expansion.Names
import TaskGraph.Proofs.Expansion.Direct
import TaskGraph.Proofs.Expansion.Building
import TaskGraph.Proofs.Expansion.Planned
import TaskGraph.Proofs.Expansion.Declared
import TaskGraph.Proofs.Expansion.Counting
import TaskGraph.Proofs.Topology.Registration
import TaskGraph.Proofs.Topology.RoundTrip
import TaskGraph.Proofs.Metis.Unlabelled
import TaskGraph.Proofs.Expansion.Printed
import TaskGraph.Proofs.Topology.Parallelism
import TaskGraph.Proofs.Expansion.Violations
import TaskGraph.Proofs.Metis.Encoding
import TaskGraph.Proofs.Graph.Canonical
import TaskGraph.Proofs.Graph.Rebuilding
import TaskGraph.Proofs.Graph.Reading
import TaskGraph.Proofs.Json.Texts
import TaskGraph.Proofs.Json.Numbers
import TaskGraph.Proofs.Json.RoundTrip
import TaskGraph.Proofs.Graph.RoundTrip
import TaskGraph.Proofs.Resolver.Memory
import TaskGraph.Proofs.Files.Replacing
import TaskGraph.Proofs.Files.Interruption
import TaskGraph.Proofs.Export.Atomicity
import TaskGraph.Proofs.CommandLine.Printing
import TaskGraph.Proofs.CommandLine.Effect
import TaskGraph.Proofs.Topology.Shape
import TaskGraph.Proofs.Expansion.Loaded
import TaskGraph.Proofs.Network.Numbering
import TaskGraph.Proofs.Network.Listing
import TaskGraph.Proofs.Network.Shown
import TaskGraph.Proofs.Export.Bare
import TaskGraph.Proofs.Yaml.Tokens
import TaskGraph.Proofs.Yaml.Documents
import TaskGraph.Proofs.Yaml.Reading
import TaskGraph.Proofs.CommandLine.Handling
import TaskGraph.Proofs.Expansion.Independence
import TaskGraph.Proofs.Expansion.Instances
import TaskGraph.Proofs.Topology.Interleaving
import TaskGraph.Proofs.Metis.Mirroring
import TaskGraph.Proofs.Metis.Retouching
import TaskGraph.Proofs.Graph.Order
import TaskGraph.Proofs.Graph.Degrees
import TaskGraph.Proofs.Topology.LastWrite
import TaskGraph.Proofs.Expansion.Degrees
import TaskGraph.Proofs.Files.Path
import TaskGraph.Proofs.CommandLine.Confinement
import TaskGraph.Proofs.Expansion.EdgeNames
import TaskGraph.Proofs.Export.Naming
