import Flowchart.Graph

/-!
# Ranks

Inside a component every vertex has a rank, the number of arrows on a
shortest way to it. The ways start at the vertices that no arrow enters, or
at the first vertex if there is none such; the ranks are found by searching
breadth-first. A vertex to which no way leads has rank 0.
-/

namespace Flowchart.Graph

variable {κ : Type} [DecidableEq κ]

/-- The keys that are not among those gone. -/
def without (keys gone : List κ) : List κ :=
  keys.filter (· ∉ gone)

theorem length_without_lt {keys gone : List κ} {k : κ} (hk : k ∈ keys) (hg : k ∈ gone) :
    (without keys gone).length < keys.length :=
  List.length_filter_lt_length_iff_exists.mpr ⟨k, hk, by simpa using hg⟩

theorem without_nil (keys : List κ) : without keys [] = keys := by
  simp [without]

/-- The vertices next to a given one that are fresh, each once. -/
def discovered (next : κ → List κ) (fresh : List κ) (v : κ) : List κ :=
  distinct ((next v).filter (· ∈ fresh))

theorem mem_discovered {next : κ → List κ} {fresh : List κ} {v w : κ} :
    w ∈ discovered next fresh v ↔ w ∈ next v ∧ w ∈ fresh := by
  simp [discovered]

/-- Breadth-first search from a queue of vertices with their ranks: every
vertex that it reaches, with its rank. -/
def spread (next : κ → List κ) (fresh : List κ) (queue : List (κ × Nat)) : List (κ × Nat) :=
  match queue with
  | [] => []
  | (v, rank) :: queue =>
    let found := discovered next fresh v
    (v, rank) :: spread next (without fresh found) (queue ++ found.map fun w => (w, rank + 1))
termination_by (fresh.length, queue.length)
decreasing_by
  cases h : discovered next fresh v with
  | nil =>
    rw [without_nil]
    exact Prod.Lex.right _ (by simp)
  | cons w ws =>
    have hw : w ∈ discovered next fresh v := by simp [h]
    rw [← h]
    exact Prod.Lex.left _ _ (length_without_lt (mem_discovered.mp hw).2 hw)

/-- The vertices of a component from which ranks are counted. -/
def roots (g : Graph κ) (component : List κ) : List κ :=
  match component.filter fun v => (g.sources v).isEmpty with
  | [] => component.take 1
  | vs => vs

/-- The vertices of a component that can be reached from its roots, with
their ranks. -/
def rankTable (g : Graph κ) (component : List κ) : List (κ × Nat) :=
  let roots := g.roots component
  spread g.targets (without component roots) (roots.map fun v => (v, 0))

/-- The rank that a table gives a vertex, 0 if it gives none. -/
def rankIn (table : List (κ × Nat)) (v : κ) : Nat :=
  (table.lookup v).getD 0

/-- The ranks of a component from the lowest to the highest, each with its
vertices in the order of the component. -/
def ranked (g : Graph κ) (component : List κ) : List (Nat × List κ) :=
  let table := g.rankTable component
  let ranks := component.map fun v => (v, rankIn table v)
  let top := ranks.foldl (fun top entry => max top entry.2) 0
  (List.range (top + 1)).map fun r => (r, (ranks.filter (·.2 = r)).map (·.1))

end Flowchart.Graph
