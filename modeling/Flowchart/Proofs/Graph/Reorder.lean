import Flowchart.Proofs.Graph.Resort

/-!
# What the order depends on

Things with different keys may be given in another order, and links in another way,
without a change of the sorted list (`topologicalSort_of_reordered`). Two orders have
to be kept: that of the things without predecessors, because the queue begins with
them, and that of the things behind cycles, because the tail follows it. Of the links
it only counts in which order the known targets of each source come up first. Every
key then has one position in either list, and going from one to the other moves the
order as a whole.
-/

namespace Flowchart

open Flowchart.Graph Progress

variable {κ ν : Type} [DecidableEq κ] {g : Graph κ} {keys keys' : List κ} {key : ν → κ}
variable {links links' : List (κ × κ)} {things things' : List ν} {i j : Nat} {k v : κ}

/-! ## Lists without repeats -/

/-- The place in the other list of the key that stands at a position. -/
def placeIn (keys keys' : List κ) (i : Nat) : Nat :=
  (keys[i]?.map keys'.idxOf).getD keys'.length

theorem placeIn_eq (hk : keys[i]? = some k) : placeIn keys keys' i = keys'.idxOf k := by
  rw [placeIn, hk]
  rfl

/-- **Keys that do not repeat move with their places.** -/
theorem moves_placeIn (hperm : keys'.Perm keys) (hkeys : keys.Nodup) :
    Moves (placeIn keys keys') keys keys' where
  perm := by
    have hplaces : (List.range keys.length).map (placeIn keys keys') = keys.map keys'.idxOf := by
      refine List.ext_getElem (by simp) fun i hi _ => ?_
      rw [List.length_map, List.length_range] at hi
      rw [List.getElem_map, List.getElem_map, List.getElem_range,
        placeIn_eq (List.getElem?_eq_getElem hi)]
    rw [hplaces, ← map_idxOf_self (hperm.nodup_iff.mpr hkeys)]
    exact (hperm.map _).symm
  getElem?_eq := fun i hi => by
    have hk : keys[i]? = some keys[i] := List.getElem?_eq_getElem hi
    rw [placeIn_eq hk, List.getElem?_idxOf (hperm.mem_iff.mpr (List.getElem_mem hi)), hk]
  idxOf_eq := fun k hk => (placeIn_eq (List.getElem?_idxOf hk)).symm

/-- One member comes before another where nothing repeats. -/
theorem idxOf_lt_of_pair_sublist {a b : κ} (hkeys : keys.Nodup) (h : [a, b].Sublist keys) :
    keys.idxOf a < keys.idxOf b := by
  have hpairwise : keys.Pairwise fun a b => keys.idxOf a < keys.idxOf b := by
    rw [List.pairwise_iff_getElem]
    intro i j hi hj hlt
    rwa [hkeys.idxOf_getElem i hi, hkeys.idxOf_getElem j hj]
  exact List.pairwise_iff_forall_sublist.mp hpairwise h

/-- **The members with a property keep their order**: of any two, the one that comes
first in the one list does so in the other. -/
def KeepsOrder (p : ν → Prop) (l l' : List ν) : Prop :=
  l.Pairwise fun a b => p a → p b → [a, b].Sublist l'

instance [DecidableEq ν] (p : ν → Prop) [DecidablePred p] (l l' : List ν) :
    Decidable (KeepsOrder p l l') :=
  inferInstanceAs (Decidable (l.Pairwise fun a b => p a → p b → [a, b].Sublist l'))

/-- What keeps its order has its places in order. -/
theorem KeepsOrder.strictMonoOn {p : ν → Prop} {q : Nat → Prop} (h : KeepsOrder p things things')
    (hkeys : (things'.map key).Nodup) (hq : ∀ i, q i → ∃ a, things[i]? = some a ∧ p a) :
    StrictMonoOn (placeIn (things.map key) (things'.map key)) {i | q i} := by
  intro i hi j hj hlt
  obtain ⟨a, ha, hpa⟩ := hq i hi
  obtain ⟨b, hb, hpb⟩ := hq j hj
  have hpair : [a, b].Sublist things' := by
    obtain ⟨hi', rfl⟩ := List.getElem?_eq_some_iff.mp ha
    obtain ⟨hj', rfl⟩ := List.getElem?_eq_some_iff.mp hb
    exact List.pairwise_iff_getElem.mp h i j hi' hj' hlt hpa hpb
  have hki : (things.map key)[i]? = some (key a) := by rw [List.getElem?_map, ha, Option.map_some]
  have hkj : (things.map key)[j]? = some (key b) := by rw [List.getElem?_map, hb, Option.map_some]
  rw [placeIn_eq hki, placeIn_eq hkj]
  exact idxOf_lt_of_pair_sublist hkeys (hpair.map key)

/-- Things move with their keys. -/
theorem getElem?_placeIn (hperm : things'.Perm things) (hkeys : (things.map key).Nodup)
    (hi : i < things.length) :
    things'[placeIn (things.map key) (things'.map key) i]? = things[i]? := by
  have hget := (moves_placeIn (hperm.map key) hkeys).getElem?_eq i (by rwa [List.length_map])
  rw [List.getElem?_map, List.getElem?_map, List.getElem?_eq_getElem hi] at hget
  obtain ⟨b, hb, hkey⟩ := Option.map_eq_some_iff.mp hget
  -- keys tell the things apart
  have hmem : b ∈ things := hperm.mem_iff.mp (List.mem_of_getElem? hb)
  rw [hb, List.getElem?_eq_getElem hi,
    List.inj_on_of_nodup_map hkeys hmem (List.getElem_mem hi) hkey]

/-! ## The sorted list -/

theorem successors_eq_nil (hg : g.On keys) (hv : v ∉ keys) : g.successors v = [] :=
  List.eq_nil_iff_forall_not_mem.mpr fun _ hw => hv (hg.source_mem (mem_successors.mp hw))

/-- **The sorted list depends on the order of its things only where it must.** Things
with different keys may be put into any order that keeps the order of those without
predecessors and the order of those that are behind cycles, and links may be repeated,
mixed and made up with unknown ends, as long as the known targets of each source come
up first in the same order. -/
theorem topologicalSort_of_reordered (key : ν → κ) {things things' : List ν}
    {links links' : List (κ × κ)} (hkeys : (things.map key).Nodup) (hperm : things'.Perm things)
    (hsources : KeepsOrder (fun a => ∀ v, ¬ (between (things.map key) links).Arrow v (key a))
      things things')
    (hcycles : KeepsOrder (fun a => (between (things.map key) links).BehindCycle (key a))
      things things')
    (hlinks : ∀ v ∈ things.map key, (between (things'.map key) links').successors v =
      (between (things.map key) links).successors v) :
    topologicalSort key links' things' = topologicalSort key links things := by
  have hkeys' : (things'.map key).Nodup := (hperm.map key).nodup_iff.mpr hkeys
  have hsucc : ∀ v, (between (things'.map key) links').successors v =
      (between (things.map key) links).successors v := by
    intro v
    by_cases hv : v ∈ things.map key
    · exact hlinks v hv
    · rw [successors_eq_nil (on_between _ links) hv,
        successors_eq_nil (on_between _ links') (mt (hperm.map key).mem_iff.mp hv)]
  have horder := topologicalOrder_moved (moves_placeIn (hperm.map key) hkeys) hsucc
    (hsources.strictMonoOn hkeys' fun i hi => by
      obtain ⟨k, hk, hnone⟩ := hi
      rw [List.getElem?_map] at hk
      obtain ⟨a, ha, rfl⟩ := Option.map_eq_some_iff.mp hk
      exact ⟨a, ha, hnone⟩)
    (hcycles.strictMonoOn hkeys' fun i hi => by
      obtain ⟨k, hk, hleft⟩ := hi
      -- no key is repeated, so what is left over is behind a cycle
      have hfirst : (things.map key).idxOf k = i := by
        obtain ⟨hi', rfl⟩ := List.getElem?_eq_some_iff.mp hk
        exact hkeys.idxOf_getElem i hi'
      rw [List.getElem?_map] at hk
      obtain ⟨a, ha, rfl⟩ := Option.map_eq_some_iff.mp hk
      exact ⟨a, ha, hleft.resolve_right fun hrepeat => hrepeat.1 hfirst⟩)
  -- what stands at a moved position is what stood at the position
  refine topologicalSort_eq_of_map_order ?_
  rw [map_some_topologicalSort, horder, List.map_map]
  refine List.map_congr_left fun i hi => ?_
  rw [mem_topologicalOrder, List.length_map] at hi
  exact getElem?_placeIn hperm hkeys hi

/-! ## What can be tested -/

/-- Whether a key has predecessors is a matter of counting them. -/
instance (g : Graph κ) (k : κ) : Decidable (∀ v, ¬ g.Arrow v k) :=
  decidable_of_iff (g.inDegree k = 0) inDegree_eq_zero_iff

omit [DecidableEq κ] in
theorem mem_of_behindCycle (hg : g.On keys) (h : g.BehindCycle k) : k ∈ keys := by
  obtain ⟨c, hcycle, hreach⟩ := h
  obtain ⟨v, -, ha⟩ := Relation.TransGen.tail'_iff.mp (hcycle.trans_left hreach)
  exact hg.target_mem ha

/-- The queue tells whether a key is behind a cycle. -/
instance (keys : List κ) (links : List (κ × κ)) (k : κ) :
    Decidable ((between keys links).BehindCycle k) :=
  decidable_of_iff (k ∈ keys ∧ keys.idxOf k ∉ (final (between keys links) keys).placed) <| by
    have hg := on_between keys links
    constructor
    · rintro ⟨hk, hplaced⟩
      by_contra hordered
      exact hplaced ((idxOf_mem_placed_final_iff hg hk).mpr hordered)
    · intro hcycle
      have hk : k ∈ keys := mem_of_behindCycle hg hcycle
      exact ⟨hk, fun hplaced => (idxOf_mem_placed_final_iff hg hk).mp hplaced hcycle⟩

/-- Nodes of which three have no predecessors, and three are behind a cycle. -/
def tidyNodes : List Node :=
  (["A", "B", "C", "D", "P", "Q", "R", "S"] : List String).map .implied

/-- The same nodes, where those that the queue has to order are put anywhere. -/
def untidyNodes : List Node :=
  (["P", "D", "A", "Q", "C", "B", "S", "R"] : List String).map .implied

/-- Links between them, with a cycle and a target behind it. -/
def tidyLinks : List (String × String) :=
  [("A", "D"), ("A", "C"), ("B", "C"), ("C", "D"), ("P", "Q"), ("Q", "P"), ("Q", "R"), ("A", "R")]

/-- The same links with repeats and unknown ends, those of each source mixed with
those of others. -/
def untidyLinks : List (String × String) :=
  [("Q", "P"), ("Z", "A"), ("C", "D"), ("A", "D"), ("Q", "R"), ("B", "C"), ("A", "C"), ("A", "D"),
    ("A", "Z"), ("P", "Q"), ("A", "R"), ("Q", "P")]

theorem topologicalSort_of_reordered_untidy :
    let g := between (tidyNodes.map Node.id) tidyLinks
    (tidyNodes.map Node.id).Nodup ∧ untidyNodes.Perm tidyNodes ∧
      KeepsOrder (fun a => ∀ v, ¬ g.Arrow v a.id) tidyNodes untidyNodes ∧
      KeepsOrder (fun a => g.BehindCycle a.id) tidyNodes untidyNodes ∧
      (∀ v ∈ tidyNodes.map Node.id,
        (between (untidyNodes.map Node.id) untidyLinks).successors v = g.successors v) ∧
      topologicalSort Node.id untidyLinks untidyNodes =
        topologicalSort Node.id tidyLinks tidyNodes := by
  intro g
  have hkeys : (tidyNodes.map Node.id).Nodup := by decide
  have hperm : untidyNodes.Perm tidyNodes := by decide +kernel
  have hsources : KeepsOrder (fun a => ∀ v, ¬ g.Arrow v a.id) tidyNodes untidyNodes := by
    decide +kernel
  have hcycles : KeepsOrder (fun a => g.BehindCycle a.id) tidyNodes untidyNodes := by
    decide +kernel
  have hlinks : ∀ v ∈ tidyNodes.map Node.id,
      (between (untidyNodes.map Node.id) untidyLinks).successors v = g.successors v := by
    decide +kernel
  exact ⟨hkeys, hperm, hsources, hcycles, hlinks,
    topologicalSort_of_reordered Node.id hkeys hperm hsources hcycles hlinks⟩

end Flowchart
