/-!
# Flowchart documents

A flowchart document is a direction, a list of nodes and a list of edges.
The lists keep the order in which things were first mentioned, and nothing
in the types makes ids distinct or edges well attached: documents read from
flowchart text have those properties, documents put together by hand need
not.

Every closed vocabulary of the domain (directions, shapes, line styles)
comes with the word that names each member, and reading a word is the
search for a member of that name.
-/

namespace Flowchart

/-- The way in which the ranks of a diagram follow one another. -/
inductive Direction where
  /-- From top to bottom. -/
  | topDown
  /-- From bottom to top. -/
  | bottomTop
  /-- From left to right. -/
  | leftRight
  /-- From right to left. -/
  | rightLeft
  deriving DecidableEq, Inhabited

/-- The outline drawn around a node's label. -/
inductive Shape where
  | rectangle
  | rhombus
  | round
  | stadium
  | cylinder
  | circle
  | asymmetric
  | hexagon
  | parallelogram
  | parallelogramAlt
  | trapezoid
  | trapezoidAlt
  | doubleCircle
  deriving DecidableEq, Inhabited

/-- The line that an edge is drawn with. -/
inductive LineStyle where
  | solid
  | dotted
  | thick
  deriving DecidableEq, Inhabited

/-- A node: an id, the text shown, and the outline around it. -/
structure Node where
  id : String
  label : String
  shape : Shape := .rectangle
  deriving DecidableEq, Inhabited

/-- An edge between two node ids, with an optional label. An empty label is
a label. -/
structure Edge where
  id : String
  source : String
  target : String
  label : Option String := none
  style : LineStyle := .solid
  deriving DecidableEq, Inhabited

/-- A whole diagram. -/
structure Document where
  direction : Direction := .topDown
  nodes : List Node := []
  edges : List Edge := []
  deriving DecidableEq, Inhabited

namespace Direction

/-- The word that a direction is written with. -/
def keyword : Direction → String
  | .topDown => "TD"
  | .bottomTop => "BT"
  | .leftRight => "LR"
  | .rightLeft => "RL"

/-- Every word that is read as a direction, with its meaning: the keywords,
and `TB` as a second word for top to bottom. Words of one direction stand
together, in alphabetical order. -/
def vocabulary : List (String × Direction) :=
  [("TB", .topDown), ("TD", .topDown), ("BT", .bottomTop), ("LR", .leftRight),
    ("RL", .rightLeft)]

/-- The direction that a word stands for. Case counts. -/
def ofKeyword? (word : String) : Option Direction :=
  (vocabulary.find? fun entry => entry.1 == word).map (·.2)

/-- Whether the ranks advance along the horizontal axis. -/
def isHorizontal : Direction → Bool
  | .leftRight | .rightLeft => true
  | .topDown | .bottomTop => false

/-- Whether the ranks advance against their axis. -/
def isReversed : Direction → Bool
  | .bottomTop | .rightLeft => true
  | .topDown | .leftRight => false

/-- Reading undoes writing. -/
theorem ofKeyword?_keyword (d : Direction) : ofKeyword? d.keyword = some d := by
  cases d <;> decide

end Direction

namespace Shape

/-- Every shape, in the order in which they are documented. -/
def all : List Shape :=
  [.rectangle, .rhombus, .round, .stadium, .cylinder, .circle, .asymmetric, .hexagon,
    .parallelogram, .parallelogramAlt, .trapezoid, .trapezoidAlt, .doubleCircle]

/-- The name of a shape in exchanged data. -/
def name : Shape → String
  | .rectangle => "rectangle"
  | .rhombus => "rhombus"
  | .round => "round"
  | .stadium => "stadium"
  | .cylinder => "cylinder"
  | .circle => "circle"
  | .asymmetric => "asymmetric"
  | .hexagon => "hexagon"
  | .parallelogram => "parallelogram"
  | .parallelogramAlt => "parallelogram-alt"
  | .trapezoid => "trapezoid"
  | .trapezoidAlt => "trapezoid-alt"
  | .doubleCircle => "double-circle"

/-- Every name with its shape. -/
def vocabulary : List (String × Shape) := all.map fun s => (s.name, s)

/-- The shape of a given name. -/
def ofName? (word : String) : Option Shape :=
  (vocabulary.find? fun entry => entry.1 == word).map (·.2)

/-- Reading undoes writing. -/
theorem ofName?_name (s : Shape) : ofName? s.name = some s := by
  cases s <;> decide

end Shape

namespace LineStyle

/-- Every line style. This is also the order in which the arrows are looked
for on a line. -/
def all : List LineStyle := [.solid, .dotted, .thick]

/-- The name of a line style in exchanged data. -/
def name : LineStyle → String
  | .solid => "solid"
  | .dotted => "dotted"
  | .thick => "thick"

/-- Every name with its line style. -/
def vocabulary : List (String × LineStyle) := all.map fun s => (s.name, s)

/-- The line style of a given name. -/
def ofName? (word : String) : Option LineStyle :=
  (vocabulary.find? fun entry => entry.1 == word).map (·.2)

/-- Reading undoes writing. -/
theorem ofName?_name (s : LineStyle) : ofName? s.name = some s := by
  cases s <;> decide

end LineStyle

/-- The node that an edge brings into being when nothing else defines it: a
rectangle showing its own id. -/
def Node.implied (id : String) : Node where
  id := id
  label := id

namespace Document

/-- The first node with the given id. -/
def node? (d : Document) (id : String) : Option Node :=
  d.nodes.find? fun n => n.id == id

/-- Adds a node, unless its id is taken: the first definition counts. -/
def define (d : Document) (n : Node) : Document :=
  if d.nodes.any fun m => m.id == n.id then d else { d with nodes := d.nodes ++ [n] }

/-- Makes sure that an id has a node, adding the implied one if it is new. -/
def mention (d : Document) (id : String) : Document :=
  d.define (.implied id)

/-- Adds an edge under the next free number, after making sure that both of
its ends have nodes, the source first. -/
def connect (d : Document) (source target : String) (label : Option String)
    (style : LineStyle) : Document :=
  let attached := (d.mention source).mention target
  let edge : Edge := ⟨"e" ++ toString d.edges.length, source, target, label, style⟩
  { attached with edges := attached.edges ++ [edge] }

end Document

end Flowchart
