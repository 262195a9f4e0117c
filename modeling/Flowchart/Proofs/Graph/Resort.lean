import Flowchart.Proofs.Graph.Moved

/-!
# Sorting what is sorted

What is sorted already stays as it is (`topologicalSort_topologicalSort`), although
the second sort meets every key at another position. The order keeps three orders of
the list that it was made from: that of the positions without predecessors, that of
the positions left over, and that of the first position of a key before the others
(`before_of_isSource`, `before_of_isLeftOver`, `before_of_idxOf_ne`). So positions
move into the order as the theory of moved positions asks, and the second order is the
first one, moved along itself.
-/

namespace Flowchart

open Flowchart.Graph Progress

variable {κ ν : Type} [DecidableEq κ] {g : Graph κ} {keys keys' : List κ} {key : ν → κ}
variable {links links' : List (κ × κ)} {things things' : List ν} {i j : Nat} {k v : κ}

/-! ## Places in a list -/

/-- The first place of a key is not behind any other. -/
theorem idxOf_le_of_getElem? (hk : keys[j]? = some k) : keys.idxOf k ≤ j := by
  obtain ⟨hj, rfl⟩ := List.getElem?_eq_some_iff.mp hk
  by_contra hlt
  have hnot := List.not_of_lt_findIdx (not_le.mp hlt)
  simp at hnot

/-- The place that no other place of the key is in front of is its first. -/
theorem idxOf_eq_of_getElem? (hk : keys[i]? = some k) (hfirst : ∀ j, keys[j]? = some k → i ≤ j) :
    keys.idxOf k = i :=
  le_antisymm (idxOf_le_of_getElem? hk)
    (hfirst _ (List.getElem?_idxOf (List.mem_of_getElem? hk)))

/-- Places are counted through where nothing repeats. -/
theorem map_idxOf_self {l : List κ} (hl : l.Nodup) : l.map l.idxOf = List.range l.length := by
  refine List.ext_getElem (by simp) fun i hi _ => ?_
  rw [List.length_map] at hi
  simp [hl.idxOf_getElem i hi]

theorem map_getElem?_range (l : List ν) : (List.range l.length).map (l[·]?) = l.map some := by
  refine List.ext_getElem (by simp) fun i hi _ => ?_
  rw [List.length_map, List.length_range] at hi
  simp [hi]

/-- In an increasing list the lower number comes first. -/
theorem Before.of_increasing {l : List Nat} (hl : l.Pairwise (· < ·)) (hi : i ∈ l) (hj : j ∈ l)
    (hlt : i < j) : Before l i j := by
  refine ⟨hi, hj, ?_⟩
  by_contra hle
  have hget : ∀ {n}, n ∈ l → l[l.idxOf n]? = some n := List.getElem?_idxOf
  obtain ⟨hi', hgi⟩ := List.getElem?_eq_some_iff.mp (hget hi)
  obtain ⟨hj', hgj⟩ := List.getElem?_eq_some_iff.mp (hget hj)
  rcases Nat.lt_or_eq_of_le (not_lt.mp hle) with hbehind | hsame
  · have := List.pairwise_iff_getElem.mp hl _ _ hj' hi' hbehind
    omega
  · have : j = i := (List.idxOf_inj hj).mp hsame
    omega

/-- What is put in front of the list does not come between. -/
theorem Before.append_left {l m : List Nat} (h : Before m i j) (hi : i ∉ l) (hj : j ∉ l) :
    Before (l ++ m) i j := by
  obtain ⟨him, hjm, hlt⟩ := h
  refine ⟨List.mem_append_right l him, List.mem_append_right l hjm, ?_⟩
  rw [List.idxOf_append_of_notMem hi, List.idxOf_append_of_notMem hj]
  omega

/-! ## What the order keeps -/

/-- The positions without predecessors stay in order, -/
theorem before_of_isSource (hi : (between keys links).IsSource keys i)
    (hj : (between keys links).IsSource keys j) (hlt : i < j) :
    Before (topologicalOrder keys links) i j := by
  obtain ⟨released, hfront⟩ := queue_start_isPrefix (between keys links) keys keys.length
  have hplaced := lineUp_final (on_between keys links)
  rw [topologicalOrder_eq, ← hplaced, final, ← hfront, List.append_assoc]
  exact (Before.of_increasing enumerates_queue_start.increasing
    ((enumerates_queue_start.mem_iff i).mpr hi) ((enumerates_queue_start.mem_iff j).mpr hj)
    hlt).append _

/-- those that are left over do so, too, -/
theorem before_of_isLeftOver (hi : (between keys links).IsLeftOver keys i)
    (hj : (between keys links).IsLeftOver keys j) (hlt : i < j) :
    Before (topologicalOrder keys links) i j := by
  have htail := enumerates_tailOf (on_between keys links)
  have hi' := (htail.mem_iff i).mpr hi
  have hj' := (htail.mem_iff j).mpr hj
  rw [topologicalOrder_eq]
  exact (Before.of_increasing htail.increasing hi' hj' hlt).append_left (mem_tailOf.mp hi').2
    (mem_tailOf.mp hj').2

/-- **and the first position of a key stays ahead of the others.** -/
theorem before_of_idxOf_ne (hk : keys[j]? = some k) (hne : keys.idxOf k ≠ j) :
    Before (topologicalOrder keys links) (keys.idxOf k) j := by
  have hg := on_between keys links
  have hmem : k ∈ keys := List.mem_of_getElem? hk
  have hfirst : keys[keys.idxOf k]? = some k := List.getElem?_idxOf hmem
  have hlt : keys.idxOf k < j := lt_of_le_of_ne (idxOf_le_of_getElem? hk) hne
  by_cases hcycle : (between keys links).BehindCycle k
  · exact before_of_isLeftOver ⟨k, hfirst, Or.inl hcycle⟩ ⟨k, hk, Or.inl hcycle⟩ hlt
  · by_cases hsource : ∀ v, ¬ (between keys links).Arrow v k
    · exact before_of_isSource ⟨k, hfirst, hsource⟩ ⟨k, hk, hsource⟩ hlt
    · -- the queue places the first position, and the other one is left over
      have harrow : ∃ v, (between keys links).Arrow v k := by
        by_contra hnone
        exact hsource (not_exists.mp hnone)
      have hplaced : keys.idxOf k ∈ (final (between keys links) keys).placed :=
        (idxOf_mem_placed_final_iff hg hmem).mpr hcycle
      have htail : j ∈ tailOf (between keys links) keys :=
        ((enumerates_tailOf hg).mem_iff j).mpr ⟨k, hk, Or.inr ⟨hne, harrow⟩⟩
      rw [topologicalOrder_eq]
      exact Before.of_append hplaced htail (mem_tailOf.mp htail).2

/-! ## A sorted list -/

theorem nodup_topologicalOrder (keys : List κ) (links : List (κ × κ)) :
    (topologicalOrder keys links).Nodup :=
  (topologicalOrder_perm keys links).nodup_iff.mpr List.nodup_range

/-- The sorted list is told by what stands at the positions of the order. -/
theorem topologicalSort_eq_of_map_order {sorted : List ν}
    (h : (topologicalOrder (things.map key) links).map (things[·]?) = sorted.map some) :
    topologicalSort key links things = sorted :=
  List.map_injective_iff.mpr (Option.some_injective ν) ((map_some_topologicalSort _ _ _).trans h)

/-- What stands at a place of the sorted list. -/
theorem getElem?_topologicalSort (key : ν → κ) (links : List (κ × κ)) (things : List ν) (j : Nat) :
    (topologicalSort key links things)[j]? =
      (topologicalOrder (things.map key) links)[j]?.bind (things[·]?) := by
  have hget := congrArg (·[j]?) (map_some_topologicalSort key links things)
  simp only [List.getElem?_map] at hget
  cases hsorted : (topologicalSort key links things)[j]? with
  | none => cases horder : (topologicalOrder (things.map key) links)[j]? <;> simp_all
  | some thing => cases horder : (topologicalOrder (things.map key) links)[j]? <;> simp_all

/-- The keys of a sorted list. -/
theorem getElem?_map_topologicalSort (key : ν → κ) (links : List (κ × κ)) (things : List ν)
    (j : Nat) : ((topologicalSort key links things).map key)[j]? =
      (topologicalOrder (things.map key) links)[j]?.bind ((things.map key)[·]?) := by
  rw [List.getElem?_map, getElem?_topologicalSort, Option.map_bind]
  congr 1
  funext i
  rw [Function.comp_apply, List.getElem?_map]

/-- **Every position moves to its place in the order.** -/
theorem moves_topologicalSort (key : ν → κ) (links : List (κ × κ)) (things : List ν) :
    Moves (topologicalOrder (things.map key) links).idxOf (things.map key)
      ((topologicalSort key links things).map key) := by
  have hperm := topologicalOrder_perm (things.map key) links
  have hnodup := nodup_topologicalOrder (things.map key) links
  have hplace : ∀ i < (things.map key).length,
      (topologicalOrder (things.map key) links)[
        (topologicalOrder (things.map key) links).idxOf i]? = some i :=
    fun i hi => List.getElem?_idxOf (mem_topologicalOrder.mpr hi)
  have hlength : ((topologicalSort key links things).map key).length =
      (topologicalOrder (things.map key) links).length := by
    have := congrArg List.length (map_some_topologicalSort key links things)
    rwa [List.length_map, List.length_map, ← List.length_map (f := key)] at this
  exact {
    perm := by
      rw [hlength, ← map_idxOf_self hnodup]
      exact (hperm.map _).symm
    getElem?_eq := fun i hi => by
      rw [getElem?_map_topologicalSort, hplace i hi, Option.bind_some]
    idxOf_eq := fun k hk => by
      have hfirst : (things.map key)[(things.map key).idxOf k]? = some k := List.getElem?_idxOf hk
      refine idxOf_eq_of_getElem? ?_ fun m hm => ?_
      · rw [getElem?_map_topologicalSort, hplace _ (List.idxOf_lt_length_of_mem hk),
          Option.bind_some, hfirst]
      · -- another position of the key has its place behind that of the first
        rw [getElem?_map_topologicalSort] at hm
        obtain ⟨j, hj, hkj⟩ := Option.bind_eq_some_iff.mp hm
        obtain ⟨hm', rfl⟩ := List.getElem?_eq_some_iff.mp hj
        have hself := hnodup.idxOf_getElem m hm'
        by_cases hsame : (things.map key).idxOf k = (topologicalOrder (things.map key) links)[m]
        · rw [hsame, hself]
        · have hbefore : Before (topologicalOrder (things.map key) links) _ _ :=
            before_of_idxOf_ne hkj hsame
          exact (hbefore.2.2.trans_eq hself).le }

/-- Which keys a graph is made on does not depend on their order. -/
theorem successors_between_congr (h : ∀ k, k ∈ keys' ↔ k ∈ keys) (v : κ) :
    (between keys' links).successors v = (between keys links).successors v := by
  simp only [successors, targets, between, h]

/-- **The order of a sorted list is that in which it is given.** -/
theorem topologicalOrder_topologicalSort (key : ν → κ) (links : List (κ × κ)) (things : List ν) :
    topologicalOrder ((topologicalSort key links things).map key) links =
      List.range (topologicalSort key links things).length := by
  have hmoves := moves_topologicalSort key links things
  have hnodup := nodup_topologicalOrder (things.map key) links
  have hsucc : ∀ v, (between ((topologicalSort key links things).map key) links).successors v =
      (between (things.map key) links).successors v :=
    successors_between_congr fun k => hmoves.mem_iff
  have horder := topologicalOrder_moved hmoves hsucc
    (fun i hi j hj hlt => (before_of_isSource hi hj hlt).2.2)
    (fun i hi j hj hlt => (before_of_isLeftOver hi hj hlt).2.2)
  rw [horder, map_idxOf_self hnodup, (topologicalOrder_perm _ links).length_eq, List.length_range,
    ← hmoves.length_eq, List.length_map]

/-- **Sorting a sorted list changes nothing**, whatever repeats in it and whatever
cycles there are. -/
theorem topologicalSort_topologicalSort (key : ν → κ) (links : List (κ × κ)) (things : List ν) :
    topologicalSort key links (topologicalSort key links things) =
      topologicalSort key links things := by
  refine topologicalSort_eq_of_map_order ?_
  rw [topologicalOrder_topologicalSort, map_getElem?_range]

end Flowchart
