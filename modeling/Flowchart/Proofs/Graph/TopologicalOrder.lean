import Flowchart.Document
import Flowchart.Proofs.Graph.Queue
import Mathlib.Data.List.Sort

/-!
# What a topological order is

The order holds every position once, and the first position of a key stands
before every position of a successor that is not behind a cycle
(`topologicalSort_sources_first`). It is made of what the queue places, led by
the positions whose keys have no predecessors, and of a tail. The tail is
exactly what cannot be ordered (`topologicalOrder_eq_append`): the positions of
keys behind a cycle, and those that repeat a key with predecessors, because
only the first position of a key is ever released.
-/

namespace Flowchart

open Flowchart.Graph Progress

variable {κ : Type} [DecidableEq κ] {g : Graph κ} {keys : List κ} {links : List (κ × κ)}
variable {j : Nat} {s t : κ}

/-- The list is that of all numbers with the property, from the lowest to the
highest. -/
structure Enumerates (l : List Nat) (p : Nat → Prop) : Prop where
  increasing : l.Pairwise (· < ·)
  mem_iff : ∀ j, j ∈ l ↔ p j

namespace Enumerates

variable {l m : List Nat} {p q : Nat → Prop}

/-- There is one such list. -/
theorem eq (h : Enumerates l p) (h' : Enumerates m p) : l = m :=
  h.increasing.eq_of_mem_iff h'.increasing fun j => (h.mem_iff j).trans (h'.mem_iff j).symm

/-- The images under a map that keeps the order of these numbers. -/
theorem map {f : Nat → Nat} (h : Enumerates l p) (hf : StrictMonoOn f {i | p i})
    (hq : ∀ j, q j ↔ ∃ i, p i ∧ f i = j) : Enumerates (l.map f) q where
  increasing := by
    rw [List.pairwise_map]
    refine h.increasing.imp_of_mem fun hi hj hlt => ?_
    exact hf ((h.mem_iff _).mp hi) ((h.mem_iff _).mp hj) hlt
  mem_iff := fun j => by
    rw [List.mem_map, hq]
    exact exists_congr fun i => and_congr_left fun _ => h.mem_iff i

end Enumerates

namespace Graph

/-- A position whose key has no predecessors. -/
def IsSource (g : Graph κ) (keys : List κ) (j : Nat) : Prop :=
  ∃ k, keys[j]? = some k ∧ ∀ v, ¬ g.Arrow v k

/-- A position that no order does justice to: its key is behind a cycle, or it
repeats a key that has a predecessor. -/
def IsLeftOver (g : Graph κ) (keys : List κ) (j : Nat) : Prop :=
  ∃ k, keys[j]? = some k ∧ (g.BehindCycle k ∨ keys.idxOf k ≠ j ∧ ∃ v, g.Arrow v k)

end Graph

/-! ## The queue and the tail -/

/-- The positions that the queue does not place. -/
def tailOf (g : Graph κ) (keys : List κ) : List Nat :=
  (List.range keys.length).filter (· ∉ (final g keys).placed)

theorem topologicalOrder_eq (keys : List κ) (links : List (κ × κ)) :
    topologicalOrder keys links =
      (final (between keys links) keys).placed ++ tailOf (between keys links) keys := rfl

theorem mem_tailOf : j ∈ tailOf g keys ↔ j < keys.length ∧ j ∉ (final g keys).placed := by
  rw [tailOf, List.mem_filter, List.mem_range, decide_eq_true_eq]

theorem nodup_placed_final (hg : g.On keys) : (final g keys).placed.Nodup := by
  rw [← lineUp_final hg]
  exact (balanced_final hg).nodup

theorem lt_length_of_mem_placed (hg : g.On keys) (hj : j ∈ (final g keys).placed) :
    j < keys.length := by
  rw [← lineUp_final hg] at hj
  exact (balanced_final hg).lt_length hj

/-- **The tail is what cannot be ordered**, as it was given. -/
theorem enumerates_tailOf (hg : g.On keys) : Enumerates (tailOf g keys) (g.IsLeftOver keys) where
  increasing := List.pairwise_lt_range.filter _
  mem_iff := fun j => by
    rw [mem_tailOf, mem_placed_final hg]
    constructor
    · rintro ⟨hj, hnot⟩
      refine ⟨keys[j], List.getElem?_eq_getElem hj, ?_⟩
      by_contra hneither
      rw [not_or, not_and, not_exists] at hneither
      refine hnot ⟨keys[j], List.getElem?_eq_getElem hj, hneither.1, ?_⟩
      exact or_iff_not_imp_left.mpr hneither.2
    · rintro ⟨k, hk, hleft⟩
      refine ⟨(List.getElem?_eq_some_iff.mp hk).1, ?_⟩
      rintro ⟨k', hk', hordered, hplace⟩
      obtain rfl := Option.some.inj (hk.symm.trans hk')
      rcases hleft with hcycle | ⟨hrepeats, v, hv⟩
      · exact hordered hcycle
      · exact hplace.elim hrepeats fun hsource => hsource v hv

/-- **The front of the queue** are the positions without predecessors. -/
theorem enumerates_queue_start : Enumerates (start g keys).queue (g.IsSource keys) where
  increasing := pairwise_queue_start
  mem_iff := fun _ => mem_queue_start

/-- **The order is a queue and a tail.** The queue runs empty, and what it has
placed begins with the positions whose keys have no predecessors, as they
were given. The tail is what cannot be ordered, as it was given, and every
other position is placed by the queue, once. -/
theorem topologicalOrder_eq_append (keys : List κ) (links : List (κ × κ)) :
    let g := between keys links
    ∃ sources released tail, topologicalOrder keys links = sources ++ released ++ tail ∧
      (final g keys).queue = [] ∧ (final g keys).placed = sources ++ released ∧
      Enumerates sources (g.IsSource keys) ∧ Enumerates tail (g.IsLeftOver keys) ∧
      (sources ++ released).Nodup ∧
      ∀ j, j ∈ sources ++ released ↔ j < keys.length ∧ ¬ g.IsLeftOver keys j := by
  intro g
  have hg : g.On keys := on_between keys links
  obtain ⟨released, hreleased⟩ : (start g keys).queue <+: (final g keys).placed := by
    rw [← lineUp_final hg]
    exact queue_start_isPrefix g keys _
  refine ⟨(start g keys).queue, released, tailOf g keys, ?_, queue_final hg, hreleased.symm,
    enumerates_queue_start, enumerates_tailOf hg, ?_, fun j => ?_⟩
  · rw [hreleased, topologicalOrder_eq]
  · rw [hreleased]
    exact nodup_placed_final hg
  · rw [hreleased, ← (enumerates_tailOf hg).mem_iff, mem_tailOf]
    have hlt : j ∈ (final g keys).placed → j < keys.length := lt_length_of_mem_placed hg
    tauto

example : topologicalOrder ["C", "R", "B", "S", "S", "R"] [("B", "C"), ("C", "B"), ("R", "S")] =
    [1, 5, 3, 0, 2, 4] := by decide

/-! ## Sources first -/

theorem mem_topologicalOrder : j ∈ topologicalOrder keys links ↔ j < keys.length := by
  rw [topologicalOrder_eq, List.mem_append, mem_tailOf]
  constructor
  · exact fun h => h.elim (lt_length_of_mem_placed (on_between keys links)) And.left
  · intro hj
    by_cases hplaced : j ∈ (final (between keys links) keys).placed
    · exact Or.inl hplaced
    · exact Or.inr ⟨hj, hplaced⟩

/-- **Every position comes out once.** -/
theorem topologicalOrder_perm (keys : List κ) (links : List (κ × κ)) :
    (topologicalOrder keys links).Perm (List.range keys.length) := by
  have hnodup : (topologicalOrder keys links).Nodup := by
    rw [topologicalOrder_eq, List.nodup_append']
    refine ⟨nodup_placed_final (on_between keys links), List.nodup_range.filter _, ?_⟩
    exact fun j hj htail => (mem_tailOf.mp htail).2 hj
  rw [List.perm_ext_iff_of_nodup hnodup List.nodup_range]
  intro j
  rw [mem_topologicalOrder, List.mem_range]

/-- What is sorted are the things at those positions. -/
theorem map_some_topologicalSort {ν : Type} (key : ν → κ) (links : List (κ × κ))
    (things : List ν) : (topologicalSort key links things).map some =
      (topologicalOrder (things.map key) links).map (things[·]?) := by
  -- every position of the order is one of the list, so nothing is missed
  rw [topologicalSort, List.map_filterMap_some_eq_filter_map_isSome, List.filter_eq_self]
  intro thing hthing
  obtain ⟨j, hj, rfl⟩ := List.mem_map.mp hthing
  rw [mem_topologicalOrder, List.length_map] at hj
  rw [List.getElem?_eq_getElem hj]
  rfl

/-- The source of an arrow comes first if the target is not behind a cycle. -/
theorem before_topologicalOrder (ha : (between keys links).Arrow s t) (hj : keys[j]? = some t)
    (ht : ¬ (between keys links).BehindCycle t) :
    Before (topologicalOrder keys links) (keys.idxOf s) j := by
  have hg := on_between keys links
  rw [topologicalOrder_eq]
  by_cases hplaced : j ∈ (final (between keys links) keys).placed
  · exact (before_of_arrow hg hplaced hj ha).append _
  · -- a repeated position goes to the tail, and the source is not behind a cycle either
    have htail : j ∈ tailOf (between keys links) keys :=
      mem_tailOf.mpr ⟨(List.getElem?_eq_some_iff.mp hj).1, hplaced⟩
    have hs : keys.idxOf s ∈ (final (between keys links) keys).placed :=
      (mem_placed_final hg).mpr ⟨s, List.getElem?_idxOf (hg.source_mem ha),
        fun hcycle => ht (hcycle.step ha), Or.inl rfl⟩
    exact Before.of_append hs htail hplaced

/-- **Every position comes out once, and sources come first.** The things are
those at the positions of the order. For a link between two known keys the
first position of its source stands before every position of its target,
unless the target is behind a cycle; where there are no cycles, that is so
for every link. -/
theorem topologicalSort_sources_first {ν : Type} (key : ν → κ) (links : List (κ × κ))
    (things : List ν) :
    let keys := things.map key
    let g := between keys links
    let order := topologicalOrder keys links
    order.Perm (List.range things.length) ∧
      (topologicalSort key links things).map some = order.map (things[·]?) ∧
      (∀ s t j, (s, t) ∈ links → s ∈ keys → keys[j]? = some t → ¬ g.BehindCycle t →
        Before order (keys.idxOf s) j) ∧
      ((∀ v, ¬ g.OnCycle v) → ∀ s t j, (s, t) ∈ links → s ∈ keys → keys[j]? = some t →
        Before order (keys.idxOf s) j) := by
  intro keys g order
  have harrow : ∀ s t j, (s, t) ∈ links → s ∈ keys → keys[j]? = some t → g.Arrow s t :=
    fun s t j hlink hs ht => mem_arrows_between.mpr ⟨hlink, hs, List.mem_of_getElem? ht⟩
  refine ⟨?_, map_some_topologicalSort key links things, ?_, ?_⟩
  · have hperm := topologicalOrder_perm keys links
    rwa [List.length_map] at hperm
  · intro s t j hlink hs ht hordered
    exact before_topologicalOrder (harrow s t j hlink hs ht) ht hordered
  · intro hacyclic s t j hlink hs ht
    refine before_topologicalOrder (harrow s t j hlink hs ht) ht ?_
    rintro ⟨c, hcycle, -⟩
    exact hacyclic c hcycle

/-- Nodes that repeat, in an order that is far from that of the links. -/
def shuffled : List Node :=
  (["D", "B", "A", "B", "X", "C", "D", "Y"] : List String).map .implied

/-- Links of the shuffled nodes without a cycle: one is given twice, and one
comes from nowhere. -/
def straightLinks : List (String × String) :=
  [("A", "B"), ("B", "D"), ("A", "B"), ("Q", "A"), ("A", "D"), ("Y", "C")]

/-- The same with a loop, and something behind it. -/
def loopedLinks : List (String × String) :=
  ("X", "X") :: ("X", "Y") :: straightLinks

theorem topologicalSort_sources_first_shuffled :
    let keys := shuffled.map Node.id
    (("B", "D") ∈ loopedLinks ∧ "B" ∈ keys ∧ keys[6]? = some "D" ∧
        ¬ (between keys loopedLinks).BehindCycle "D" ∧
        Before (topologicalOrder keys loopedLinks) (keys.idxOf "B") 6) ∧
      (∀ v, ¬ (between keys straightLinks).OnCycle v) ∧ ("Y", "C") ∈ straightLinks ∧
        "Y" ∈ keys ∧ keys[5]? = some "C" ∧
        Before (topologicalOrder keys straightLinks) (keys.idxOf "Y") 5 := by
  intro keys
  have hordered : ¬ (between keys loopedLinks).BehindCycle "D" :=
    (idxOf_mem_placed_final_iff (on_between keys loopedLinks) (by decide)).mp (by decide +kernel)
  have hacyclic : ∀ v, ¬ (between keys straightLinks).OnCycle v :=
    (forall_not_onCycle_iff (on_between keys straightLinks)).mpr (by decide +kernel)
  obtain ⟨-, -, hlooped, -⟩ := topologicalSort_sources_first Node.id loopedLinks shuffled
  obtain ⟨-, -, -, hstraight⟩ := topologicalSort_sources_first Node.id straightLinks shuffled
  refine ⟨⟨by decide, by decide, by decide, hordered, ?_⟩, hacyclic, by decide, by decide,
    by decide, ?_⟩
  · exact hlooped "B" "D" 6 (by decide) (by decide) (by decide) hordered
  · exact hstraight hacyclic "Y" "C" 5 (by decide) (by decide) (by decide)

end Flowchart
