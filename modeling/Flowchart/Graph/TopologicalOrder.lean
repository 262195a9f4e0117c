import Flowchart.Graph

/-!
# Topological order

Keys with links between them are put into an order in which, as far as
cycles allow, the source of a link stands before its target. A key may be
given several times; what is ordered is the **positions** of the list, and
every position comes out.

The order is found by releasing keys: a position waits in a queue once no
predecessor of its key is left. Taking a position from the queue places it,
and if it is the first of its key, every successor has one predecessor fewer.
`Progress` is the state of that process and `Progress.advance` one turn of
it. What never gets released, because it lies on a cycle or behind one,
follows at the end in the order in which it was given.
-/

namespace Flowchart

variable {κ : Type} [DecidableEq κ]

namespace Graph

/-- The targets of a vertex, each once, in the order of its first arrow. -/
def successors (g : Graph κ) (v : κ) : List κ :=
  distinct (g.targets v)

/-- The number of vertices with an arrow to the given one. -/
def inDegree (g : Graph κ) (v : κ) : Nat :=
  (distinct (g.sources v)).length

end Graph

/-- How far the ordering has come. -/
structure Progress (κ : Type) where
  /-- The positions that wait to be placed, in their order. -/
  queue : List Nat
  /-- The positions placed so far, in their order. -/
  placed : List Nat
  /-- For every key the number of its predecessors that are left. -/
  pending : List (κ × Nat)

namespace Progress

/-- The number of predecessors left of a key. -/
def pendingOf (s : Progress κ) (k : κ) : Nat :=
  (s.pending.lookup k).getD 0

/-- Before anything is placed: every position of a key without predecessors
waits. -/
def start (g : Graph κ) (keys : List κ) : Progress κ where
  queue := (List.range keys.length).filter fun i => keys[i]?.any fun k => g.inDegree k = 0
  placed := []
  pending := g.vertices.map fun k => (k, g.inDegree k)

/-- Takes one predecessor off a key. When none is left, the first position
of the key joins the queue. -/
def release (keys : List κ) (s : Progress κ) (k : κ) : Progress κ :=
  let left := s.pendingOf k - 1
  { s with
    queue := if left = 0 then s.queue ++ [keys.idxOf k] else s.queue
    pending := s.pending.map fun entry => if entry.1 = k then (k, left) else entry }

/-- Places the next position of the queue. The first position of a key
releases the successors of the key. -/
def advance (g : Graph κ) (keys : List κ) (s : Progress κ) : Progress κ :=
  match s.queue with
  | [] => s
  | i :: queue =>
    let s := { s with queue, placed := s.placed ++ [i] }
    match keys[i]? with
    | none => s
    | some k => if keys.idxOf k = i then (g.successors k).foldl (release keys) s else s

/-- The state after the given number of turns. -/
def after (g : Graph κ) (keys : List κ) : Nat → Progress κ
  | 0 => start g keys
  | n + 1 => (after g keys n).advance g keys

end Progress

/-- **The positions of the keys in topological order.** One turn for every
position empties the queue. -/
def topologicalOrder (keys : List κ) (links : List (κ × κ)) : List Nat :=
  let placed := (Progress.after (.between keys links) keys keys.length).placed
  placed ++ (List.range keys.length).filter (· ∉ placed)

/-- The things with the given keys, in topological order. -/
def topologicalSort {ν : Type} (key : ν → κ) (links : List (κ × κ)) (things : List ν) : List ν :=
  (topologicalOrder (things.map key) links).filterMap (things[·]?)

end Flowchart
