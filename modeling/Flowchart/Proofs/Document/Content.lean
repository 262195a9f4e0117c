import Flowchart.Proofs.Document.Fresh
import Flowchart.Proofs.Statement.Edge

/-!
# What a line says

Reading a document is a map and a merge. What a line says does not depend on
the lines before it (`Content.ofLine`): some definitions and at most one
connection. The document then is the fresh ones among all nodes that the
lines name, the ends of a connection behind its definitions, and the
connections under consecutive numbers (`Document.ofLines_eq`).
-/

namespace Flowchart

open Text Statement

/-- An edge that has no number yet. -/
structure Connection where
  source : String
  target : String
  label : Option String
  style : LineStyle
  deriving DecidableEq

/-- What a line says: the nodes it defines and the edge it states. -/
structure Content where
  definitions : List Node := []
  connection : Option Connection := none
  deriving DecidableEq

namespace Connection

/-- The connection under its number. -/
def edge (c : Connection) (number : Nat) : Edge :=
  ⟨"e" ++ toString number, c.source, c.target, c.label, c.style⟩

/-- The nodes that the connection brings into being, the source first. -/
def ends (c : Connection) : List Node :=
  [.implied c.source, .implied c.target]

end Connection

/-- An edge without its number. -/
def Edge.connection (e : Edge) : Connection :=
  ⟨e.source, e.target, e.label, e.style⟩

@[simp] theorem Connection.connection_edge (c : Connection) (number : Nat) :
    (c.edge number).connection = c := rfl

/-- The connection that an edge statement makes in a given style. -/
def Statement.EdgeStatement.connection (e : EdgeStatement) (style : LineStyle) : Connection :=
  ⟨String.ofList e.source, String.ofList e.target, e.label.map String.ofList, style⟩

namespace Content

/-- Every node that the content names, in the order in which they are added. -/
def nodes (c : Content) : List Node :=
  c.definitions ++ c.connection.toList.flatMap Connection.ends

/-- What a trimmed line says, if it says anything. -/
def ofStatement (line : List Char) : Content :=
  match LineStyle.ofLine? line with
  | some style =>
    { definitions := definitionsIn line
      connection := (edge? line).map fun found => found.1.connection style }
  | none => { definitions := ((Statement.node? line).map (·.1)).toList }

/-- What a line says, white space around it aside. -/
def ofLine (raw : List Char) : Content :=
  if Document.isSilent (trim raw) then {} else ofStatement (trim raw)

variable {line rest : List Char} {n : Node}

/-- **A definition at the front of a line comes first** among the nodes that the
line names, whether or not it is the line of an edge. -/
theorem nodes_ofStatement_of_node? (h : Statement.node? line = some (n, rest)) :
    ∃ more, (ofStatement line).nodes = n :: more := by
  have hfound : definitionsIn line = n :: definitionsFrom true rest := definitionsFrom_node h
  rw [ofStatement]
  split
  · rw [nodes, hfound, List.cons_append]
    exact ⟨_, rfl⟩
  · rw [h]
    exact ⟨[], rfl⟩

/-- **A line that is one definition says that node** and nothing else, even if
there are arrows in its label: no edge statement is left behind it. -/
theorem ofStatement_of_node? (h : Statement.node? line = some (n, [])) :
    ofStatement line = { definitions := [n] } := by
  obtain ⟨id, inner, l, hid, hl, -⟩ := node?_eq_some_iff.mp h
  have hend : endpoint? line = some (id, []) := by
    rw [endpoint?, hid]
    simp [hl]
  have hedge : edge? line = none := by
    rw [edge?, hend]
    rfl
  have hfound : definitionsIn line = [n] := by
    rw [definitionsIn, definitionsFrom_node h, definitionsFrom]
  rw [ofStatement]
  split
  · rw [hfound, hedge]
    rfl
  · rw [h]
    rfl

end Content

namespace Document

variable {d : Document} {raw header : List Char} {body : List (List Char)}

/-- Adds what a line says: the nodes that are new, and the connection under
the next number. -/
def add (d : Document) (c : Content) : Document where
  direction := d.direction
  nodes := d.nodes ++ fresh (idsOf d.nodes) c.nodes
  edges := d.edges ++ c.connection.toList.map (·.edge d.edges.length)

theorem add_empty (d : Document) : d.add {} = d := by
  simp [add, Content.nodes, fresh]

/-- A line that is no edge line adds what it defines. -/
theorem addNodeLine_eq (d : Document) (line : List Char) :
    d.addNodeLine line = d.add { definitions := ((Statement.node? line).map (·.1)).toList } := by
  rw [addNodeLine]
  cases Statement.node? line with
  | none => exact (add_empty d).symm
  | some found =>
    have hone : d.define found.1 = d.defineAll [found.1] := rfl
    simp [hone, defineAll_eq, add, Content.nodes]

/-- An edge line adds what it defines, then what it connects. -/
theorem addEdgeLine_eq (d : Document) (style : LineStyle) (line : List Char) :
    d.addEdgeLine style line = d.add
      { definitions := definitionsIn line
        connection := (edge? line).map fun found => found.1.connection style } := by
  rw [addEdgeLine]
  cases edge? line with
  | none => simp [add, Content.nodes, defineAll_eq]
  | some found =>
    have hends : ∀ (d' : Document) (source target : String),
        (d'.mention source).mention target =
          d'.defineAll [.implied source, .implied target] := fun _ _ _ => rfl
    simp only [connect, hends, defineAll_eq]
    simp [add, Content.nodes, Connection.ends, Connection.edge, EdgeStatement.connection,
      fresh_append]

/-- **A line adds what it says.** -/
theorem addLine_eq (d : Document) (raw : List Char) :
    d.addLine raw = d.add (Content.ofLine raw) := by
  by_cases hs : isSilent (trim raw) = true
  · have hcontent : Content.ofLine raw = {} := if_pos hs
    rw [hcontent, add_empty]
    exact if_pos hs
  · have hcontent : Content.ofLine raw = Content.ofStatement (trim raw) := if_neg hs
    rw [hcontent, Content.ofStatement]
    refine (if_neg hs).trans ?_
    cases LineStyle.ofLine? (trim raw) with
    | none => exact addNodeLine_eq d (trim raw)
    | some style => exact addEdgeLine_eq d style (trim raw)

/-- **Lines add what they say together.** The connections are numbered
through, and the nodes are the fresh ones of all. -/
theorem foldl_addLine_eq (d : Document) (body : List (List Char)) :
    body.foldl addLine d =
      { direction := d.direction
        nodes := d.nodes ++ fresh (idsOf d.nodes) (body.flatMap fun raw => (Content.ofLine raw).nodes)
        edges := d.edges ++ (body.filterMap fun raw => (Content.ofLine raw).connection).mapIdx
          fun i c => c.edge (d.edges.length + i) } := by
  induction body generalizing d with
  | nil => simp [fresh]
  | cons raw body ih =>
    rw [List.foldl_cons, ih, addLine_eq, add, List.flatMap_cons, fresh_append]
    cases hc : (Content.ofLine raw).connection with
    | none => simp [hc]
    | some c => simp [hc, Nat.add_comm, Nat.add_left_comm]

/-- **The document of a list of lines.** -/
theorem ofLines_eq (header : List Char) (body : List (List Char)) :
    ofLines (header :: body) =
      { direction := (Direction.ofHeader? (trim header)).getD .topDown
        nodes := fresh [] (body.flatMap fun raw => (Content.ofLine raw).nodes)
        edges := (body.filterMap fun raw => (Content.ofLine raw).connection).mapIdx
          fun i c => c.edge i } := by
  rw [ofLines, foldl_addLine_eq]
  simp

end Document

end Flowchart
