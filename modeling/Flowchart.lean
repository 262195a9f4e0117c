import Flowchart.Main
import Flowchart.Proofs.Statement.Arrow
import Flowchart.Proofs.Statement.Identifier
import Flowchart.Proofs.Statement.Label
import Flowchart.Proofs.Statement.Node
import Flowchart.Proofs.Statement.Edge
import Flowchart.Proofs.Document.Content
import Flowchart.Proofs.Document.Parsed
import Flowchart.Proofs.Document.Written
import Flowchart.Proofs.Document.Normal
import Flowchart.Proofs.Document.Invariant
import Flowchart.Proofs.Document.Merge
import Flowchart.Proofs.Graph.Cycle
import Flowchart.Proofs.Graph.Release
import Flowchart.Proofs.Graph.Queue
import Flowchart.Proofs.Graph.Tally
import Flowchart.Proofs.Graph.Counter
import Flowchart.Proofs.Graph.TopologicalOrder
import Flowchart.Proofs.Graph.Moved
import Flowchart.Proofs.Graph.Resort
import Flowchart.Proofs.Graph.Reorder
import Flowchart.Proofs.RoundTrip
import Flowchart.Proofs.Idempotence
import Flowchart.Proofs.Graph.Component
import Flowchart.Proofs.Graph.Rank
import Flowchart.Proofs.Graph.Grouping
import Flowchart.Proofs.Layout.Order
import Flowchart.Proofs.Graph.Growth
import Flowchart.Proofs.Layout.Growth
import Flowchart.Proofs.Layout.Apart
import Flowchart.Proofs.Statement.Endpoint
import Flowchart.Proofs.Statement.Quoted
import Flowchart.Proofs.Document.Quoted
import Flowchart.Proofs.Statement.Inline
import Flowchart.Proofs.Document.Inline
import Flowchart.Proofs.Json.Reader
import Flowchart.Proofs.Document.Exchange
import Flowchart.Proofs.Json.Record
import Flowchart.Proofs.Graph.Distinct
import Flowchart.Proofs.Graph.Traversal
import Flowchart.Proofs.Graph.Parallel
import Flowchart.Proofs.Layout.Place
import Flowchart.Proofs.Layout.Spacing
import Flowchart.Proofs.Layout.Ignored
import Flowchart.Proofs.Layout.Direction
import Flowchart.Proofs.Label.Break
import Flowchart.Proofs.Document.Relaid
import Flowchart.Proofs.Statement.Cursor
import Flowchart.Proofs.Statement.Reading
