import Flowchart.Document
import Flowchart.Graph.TopologicalOrder

/-!
# Sorting the nodes of a document

The nodes of a document in topological order of its edges.
-/

namespace Flowchart.Document

/-- The nodes in an order in which, cycles aside, every edge leads from an
earlier node to a later one. -/
def sortedNodes (d : Document) : List Node :=
  topologicalSort Node.id (d.edges.map fun e => (e.source, e.target)) d.nodes

end Flowchart.Document
