import Flowchart.Document
import Flowchart.Json.Record

/-!
# Documents as JSON

A document is exchanged as an object with its direction, its nodes and its
edges. It is written in the pretty style. An edge without a label has no
such member, and a node or an edge that is read without shape or style has
the plain one; so has a document without direction.
-/

namespace Flowchart

open Json

namespace Node

/-- A node as a JSON value. -/
def toJson (n : Node) : Value :=
  .object [("id", .text n.id), ("label", .text n.label), ("shape", .text n.shape.name)]

/-- How a node is read. -/
def schema : Schema Node where
  title := "struct FlowchartNode"
  members := [
    .of "id" true readText fun id n => { n with id },
    .of "label" true readText fun label n => { n with label },
    .of "shape" false (readWord Shape.vocabulary) fun shape n => { n with shape }]
  blank := { id := "", label := "" }

end Node

namespace Edge

/-- An edge as a JSON value. -/
def toJson (e : Edge) : Value :=
  let label := match e.label with
    | some label => [("label", Value.text label)]
    | none => []
  .object <| [("id", .text e.id), ("source", .text e.source), ("target", .text e.target)] ++
    label ++ [("style", .text e.style.name)]

/-- How an edge is read. -/
def schema : Schema Edge where
  title := "struct FlowchartEdge"
  members := [
    .of "id" true readText fun id e => { e with id },
    .of "source" true readText fun source e => { e with source },
    .of "target" true readText fun target e => { e with target },
    .of "label" false (readOption readText) fun label e => { e with label },
    .of "style" false (readWord LineStyle.vocabulary) fun style e => { e with style }]
  blank := { id := "", source := "", target := "" }

end Edge

namespace Document

/-- A document as a JSON value. -/
def toJson (d : Document) : Value :=
  .object [("direction", .text d.direction.keyword), ("nodes", .list (d.nodes.map Node.toJson)),
    ("edges", .list (d.edges.map Edge.toJson))]

/-- How a document is read. -/
def schema : Schema Document where
  title := "struct FlowchartDocument"
  members := [
    .of "direction" false (readWord Direction.vocabulary) fun direction d => { d with direction },
    .of "nodes" false (readList (readRecord Node.schema)) fun nodes d => { d with nodes },
    .of "edges" false (readList (readRecord Edge.schema)) fun edges d => { d with edges }]
  blank := {}

/-- **The JSON text of a document.** -/
def toJsonText (d : Document) : String :=
  render .pretty d.toJson

/-- **The document of a JSON text.** -/
def ofJsonText (text : String) : Except Json.Error Document :=
  readAll (readRecord schema) text

end Document

end Flowchart
