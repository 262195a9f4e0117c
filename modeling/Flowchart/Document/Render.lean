import Flowchart.Document.Parse

/-!
# Writing flowchart text

A document is written as a header, a line for each node and a line for each
edge, with no line feed at the end. Labels are written as they stand, and
edge ids are not written, since the notation has none.
-/

namespace Flowchart

open Text

/-- The header line. -/
def Direction.header (d : Direction) : List Char :=
  "flowchart ".toList ++ d.keyword.toList

/-- The line that defines a node. -/
def Node.line (n : Node) : List Char :=
  [' ', ' '] ++ n.id.toList ++ n.shape.wrap n.label.toList

/-- What stands between the ends of an edge: the arrow and the label. -/
def Edge.link (e : Edge) : List Char :=
  match e.label with
  | some label => e.style.arrow ++ ['|'] ++ label.toList ++ ['|']
  | none => e.style.arrow

/-- The line that states an edge. -/
def Edge.line (e : Edge) : List Char :=
  [' ', ' '] ++ e.source.toList ++ [' '] ++ e.link ++ [' '] ++ e.target.toList

namespace Document

/-- The lines of a document in canonical form. -/
def lines (d : Document) : List (List Char) :=
  d.direction.header :: (d.nodes.map Node.line ++ d.edges.map Edge.line)

/-- **The text of a document** in canonical form. -/
def render (d : Document) : String :=
  String.ofList (joinLines d.lines)

end Document

/-- Brings flowchart text into canonical form. -/
def format (text : String) : String :=
  (Document.parse text).render

end Flowchart
