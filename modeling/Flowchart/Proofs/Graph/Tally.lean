import Flowchart.Proofs.Graph.Distinct
import Flowchart.Proofs.Graph.Release
import Mathlib.Logic.Function.Basic

/-!
# Counting link by link

The successors of a key and the number of its predecessors are found in one pass over
the links. A link between two known keys that has not come before makes its target
the last successor of its source, and adds one to the number of its target; every
other link is passed over. `Tally` is what the pass has found so far.

After all links these are the successors and the numbers of the graph between the keys
(`Tally.ofLinks_eq`), because one more link changes both sides in the same way
(`successors_concat`, `inDegree_concat`).
-/

namespace Flowchart

variable {κ : Type} [DecidableEq κ] {keys : List κ} {links : List (κ × κ)} {u w : κ}

/-- One more key at the end is new or leaves the list as it is. -/
theorem distinct_concat (keys : List κ) (k : κ) :
    distinct (keys ++ [k]) = if k ∈ keys then distinct keys else distinct keys ++ [k] := by
  rw [distinct_append, distinct_eq_self (List.nodup_singleton k)]
  by_cases hk : k ∈ keys
  · simp [hk]
  · simp [hk]

namespace Graph

/-- A link between known keys is the last arrow. -/
theorem arrows_concat (hu : u ∈ keys) (hw : w ∈ keys) :
    (between keys (links ++ [(u, w)])).arrows = (between keys links).arrows ++ [(u, w)] := by
  simp [between, hu, hw]

/-- A link with an unknown end is left out. -/
theorem between_concat_of_not (h : ¬ (u ∈ keys ∧ w ∈ keys)) :
    between keys (links ++ [(u, w)]) = between keys links := by
  simp [between, h]

/-- **One more link between known keys** gives its source a successor, unless it came
before. -/
theorem successors_concat (links : List (κ × κ)) (hu : u ∈ keys) (hw : w ∈ keys) (v : κ) :
    (between keys (links ++ [(u, w)])).successors v =
      if v = u ∧ w ∉ (between keys links).successors u
      then (between keys links).successors v ++ [w] else (between keys links).successors v := by
  simp only [successors, targets, arrows_concat hu hw, List.filter_append, List.map_append]
  by_cases hv : v = u
  · subst hv
    simp [distinct_concat, ite_not]
  · simp [hv, Ne.symm hv]

/-- **And its target a predecessor**, unless it came before. -/
theorem inDegree_concat (links : List (κ × κ)) (hu : u ∈ keys) (hw : w ∈ keys) (t : κ) :
    (between keys (links ++ [(u, w)])).inDegree t =
      if t = w ∧ w ∉ (between keys links).successors u
      then (between keys links).inDegree t + 1 else (between keys links).inDegree t := by
  have hnew : w ∈ (between keys links).successors u ↔ u ∈ (between keys links).sources w := by
    rw [mem_successors, mem_sources]
    exact Iff.rfl
  simp only [hnew, inDegree, sources, arrows_concat hu hw, List.filter_append, List.map_append]
  by_cases ht : t = w
  · subst ht
    by_cases hmem : u ∈ ((between keys links).arrows.filter (·.2 = t)).map (·.1)
    · simp [distinct_concat, hmem]
    · simp [distinct_concat, hmem]
  · simp [ht, Ne.symm ht]

end Graph

/-- What a pass over the links has found so far: for every key its successors, and the
number of its predecessors. -/
structure Tally (κ : Type) where
  successors : κ → List κ
  inDegree : κ → Nat

namespace Tally

/-- Before the first link. -/
def empty : Tally κ :=
  ⟨fun _ => [], fun _ => 0⟩

/-- One more link. It is passed over if an end is unknown or if it came before. -/
def count (keys : List κ) (t : Tally κ) (link : κ × κ) : Tally κ :=
  if link.1 ∈ keys ∧ link.2 ∈ keys ∧ link.2 ∉ t.successors link.1 then
    { successors := Function.update t.successors link.1 (t.successors link.1 ++ [link.2])
      inDegree := Function.update t.inDegree link.2 (t.inDegree link.2 + 1) }
  else t

/-- After all links. -/
def ofLinks (keys : List κ) (links : List (κ × κ)) : Tally κ :=
  links.foldl (count keys) empty

/-- The successors and the numbers of predecessors of a graph. -/
def ofGraph (g : Graph κ) : Tally κ :=
  ⟨g.successors, g.inDegree⟩

/-- One more link counts as one more link of the graph. -/
theorem count_ofGraph (keys : List κ) (links : List (κ × κ)) (u w : κ) :
    (ofGraph (.between keys links)).count keys (u, w) =
      ofGraph (.between keys (links ++ [(u, w)])) := by
  by_cases hknown : u ∈ keys ∧ w ∈ keys
  · obtain ⟨hu, hw⟩ := hknown
    have hsuccessors := funext (Graph.successors_concat links hu hw)
    have hdegree := funext (Graph.inDegree_concat links hu hw)
    simp only [ofGraph, hsuccessors, hdegree, count, hu, hw, true_and]
    by_cases hnew : w ∈ (Graph.between keys links).successors u
    · simp [hnew]
    · simp only [hnew, not_false_eq_true, if_true, and_true, mk.injEq]
      constructor
      · funext v
        by_cases hv : v = u
        · subst hv
          simp
        · simp [hv]
      · funext t
        by_cases ht : t = w
        · subst ht
          simp
        · simp [ht]
  · have hnot : ¬ (u ∈ keys ∧ w ∈ keys ∧ w ∉ (ofGraph (.between keys links)).successors u) :=
      fun h => hknown ⟨h.1, h.2.1⟩
    rw [count, if_neg hnot, Graph.between_concat_of_not hknown]

/-- **The pass over the links finds the graph between the keys.** -/
theorem ofLinks_eq (keys : List κ) (links : List (κ × κ)) :
    ofLinks keys links = ofGraph (.between keys links) := by
  induction links using List.reverseRecOn with
  | nil => rfl
  | append_singleton links link ih =>
    rw [ofLinks, List.foldl_append, ← ofLinks, ih]
    exact count_ofGraph keys links link.1 link.2

end Tally

end Flowchart
