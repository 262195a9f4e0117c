import Flowchart.Statement.Edge
import Flowchart.Text.Lines

/-!
# Reading flowchart text

Reading never fails. The first line is the header and gives the direction,
top to bottom if it gives none. Every later line is read for itself and
added to the document read so far: blank lines and comments add nothing, an
edge line adds the definitions inside it and then its edge, any other line
adds the node it defines. A line that fits nothing adds nothing.
-/

namespace Flowchart

open Text Statement

/-- The words that open a header. -/
def headerWords : List (List Char) := ["flowchart".toList, "graph".toList]

/-- The direction that a header line names. -/
def Direction.ofHeader? (line : List Char) : Option Direction := do
  let rest ← headerWords.findSome? fun word => strip? word line
  match rest with
  | c :: _ =>
    if isGap c then
      let (word, _) ← identifier? (skipGap rest)
      Direction.ofKeyword? (String.ofList word)
    else none
  | [] => none

namespace Document

/-- Adds several nodes, one after the other. -/
def defineAll (d : Document) (ns : List Node) : Document :=
  ns.foldl define d

/-- Adds what an edge line of the given style says. The definitions inside
the line count even if it holds no edge statement. -/
def addEdgeLine (d : Document) (style : LineStyle) (line : List Char) : Document :=
  let defined := d.defineAll (definitionsIn line)
  match edge? line with
  | some (e, _) =>
    defined.connect (String.ofList e.source) (String.ofList e.target)
      (e.label.map String.ofList) style
  | none => defined

/-- Adds the node that a line defines. -/
def addNodeLine (d : Document) (line : List Char) : Document :=
  match Statement.node? line with
  | some (n, _) => d.define n
  | none => d

/-- Whether a line says nothing: it is blank or a comment. -/
def isSilent (line : List Char) : Bool :=
  line.isEmpty || ['%', '%'].isPrefixOf line

/-- Adds what one line says, white space around it aside. -/
def addLine (d : Document) (raw : List Char) : Document :=
  let line := trim raw
  if isSilent line then d
  else
    match LineStyle.ofLine? line with
    | some style => d.addEdgeLine style line
    | none => d.addNodeLine line

/-- The document of a list of lines, the first of which is the header. -/
def ofLines : List (List Char) → Document
  | [] => {}
  | header :: body =>
    body.foldl addLine { direction := (Direction.ofHeader? (trim header)).getD .topDown }

/-- **The document that a text describes.** -/
def parse (text : String) : Document :=
  ofLines (splitLines text.toList)

end Document

end Flowchart
