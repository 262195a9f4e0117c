import Flowchart.Graph

/-!
# Components

The vertices of a graph are grouped by depth-first search. From the first
vertex that is still fresh the search runs along the arrows, visiting every
vertex before those it leads to and taking these in arrow order; what it
visits is one component. The search then starts again from the next fresh
vertex.

Along outgoing arrows only, a vertex that is visited before its predecessors
ends up in an earlier component than they do. Following the arrows in both
directions gives the weakly connected components.

The search keeps a stack of vertices still to look at. A vertex may lie on
it several times; only the first look finds it fresh.
-/

namespace Flowchart

/-- Which arrows hold a component together. -/
inductive Grouping where
  /-- Those that leave a vertex. -/
  | forward
  /-- Those that leave a vertex, and then those that enter it. -/
  | undirected
  deriving DecidableEq, Inhabited

variable {κ : Type} [DecidableEq κ]

namespace Graph

/-- The vertices next to a given one, in the order of the search. -/
def neighbours (g : Graph κ) : Grouping → κ → List κ
  | .forward, v => g.targets v
  | .undirected, v => g.targets v ++ g.sources v

/-- Depth-first search from a stack of vertices: what it visits, in its
order, and what stays fresh. -/
def explore (next : κ → List κ) (fresh stack : List κ) : List κ × List κ :=
  match stack with
  | [] => ([], fresh)
  | v :: stack =>
    if v ∈ fresh then
      let fresh := fresh.erase v
      let (visited, left) := explore next fresh ((next v).filter (· ∈ fresh) ++ stack)
      (v :: visited, left)
    else explore next fresh stack
termination_by (fresh.length, stack.length)
decreasing_by
  · have := List.length_pos_of_mem ‹v ∈ _›
    apply Prod.Lex.left
    rw [List.length_erase_of_mem ‹v ∈ _›]
    omega
  · apply Prod.Lex.right; simp

/-- What stays fresh was fresh before, in the same order. -/
theorem explore_sublist (next : κ → List κ) (fresh stack : List κ) :
    (explore next fresh stack).2.Sublist fresh := by
  fun_induction explore next fresh stack with
  | case1 => exact List.Sublist.refl _
  | case2 fresh v stack _ fresh' visited left heq ih =>
    rw [heq] at ih
    exact ih.trans List.erase_sublist
  | case3 fresh v stack _ ih => exact ih

/-- A search that starts at a fresh vertex leaves fewer fresh. -/
theorem length_explore_lt (next : κ → List κ) (v : κ) (rest : List κ) :
    (explore next (v :: rest) [v]).2.length < (v :: rest).length := by
  rw [explore]
  simp only [List.mem_cons, true_or, if_true, List.erase_cons_head]
  exact Nat.lt_succ_of_le (explore_sublist _ _ _).length_le

/-- The components of the fresh vertices, in the order in which their first
vertices are given. -/
def componentsOf (next : κ → List κ) (fresh : List κ) : List (List κ) :=
  match fresh with
  | [] => []
  | v :: rest =>
    (explore next (v :: rest) [v]).1 :: componentsOf next (explore next (v :: rest) [v]).2
termination_by fresh.length
decreasing_by exact length_explore_lt next v rest

/-- **The components of a graph**, each in the order of its search. -/
def components (g : Graph κ) (grouping : Grouping) : List (List κ) :=
  componentsOf (g.neighbours grouping) g.vertices

end Graph

end Flowchart
