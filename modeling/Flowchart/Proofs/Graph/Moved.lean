import Flowchart.Proofs.Graph.TopologicalOrder

/-!
# The same keys in other places

The keys of one list may stand in another one at other positions (`Moves`). An
order of positions is not tied to where they are. What a turn of the queue releases
depends on the key of the position that it takes, on the successors of that key, and
on how many predecessors other keys have left, so a turn at moved positions is the
turn moved (`MovedTo.advance`), and so is a whole run (`movedTo_after`).

What the places do decide is how the queue begins and how the tail is given. If the
positions without predecessors keep their order among each other, and those that are
left over theirs, the whole order is that of the first list, moved
(`topologicalOrder_moved`).
-/

namespace Flowchart

open Flowchart.Graph Progress

variable {κ : Type} [DecidableEq κ] {g g' : Graph κ} {keys keys' : List κ}
variable {links links' : List (κ × κ)} {move : Nat → Nat} {i j : Nat} {k v w : κ}

/-! ## Graphs with the same successors -/

namespace Graph

section SameSuccessors

variable (hsucc : ∀ v, g'.successors v = g.successors v)

include hsucc

theorem arrow_iff_of_successors_eq (v w : κ) : g'.Arrow v w ↔ g.Arrow v w := by
  rw [← mem_successors, hsucc, mem_successors]

/-- Every key has as many predecessors in one graph as in the other. -/
theorem inDegree_eq_of_successors_eq (k : κ) : g'.inDegree k = g.inDegree k := by
  have hmem : ∀ v, v ∈ distinct (g'.sources k) ↔ v ∈ distinct (g.sources k) := by
    intro v
    rw [mem_distinct, mem_distinct, mem_sources, mem_sources]
    exact arrow_iff_of_successors_eq hsucc v k
  have hperm : (distinct (g'.sources k)).Perm (distinct (g.sources k)) :=
    (List.perm_ext_iff_of_nodup (nodup_distinct _) (nodup_distinct _)).mpr hmem
  exact hperm.length_eq

theorem behindCycle_iff_of_successors_eq (k : κ) : g'.BehindCycle k ↔ g.BehindCycle k := by
  have harrow : g'.Arrow = g.Arrow := by
    funext v w
    exact propext (arrow_iff_of_successors_eq hsucc v w)
  rw [BehindCycle, BehindCycle]
  simp only [OnCycle, Reaches, harrow]

end SameSuccessors

end Graph

/-! ## Positions that move -/

/-- Where the positions of one list go in another that holds the same keys. Every
position is taken up once, and the first one of a key remains the first. -/
structure Moves (move : Nat → Nat) (keys keys' : List κ) : Prop where
  perm : ((List.range keys.length).map move).Perm (List.range keys'.length)
  getElem?_eq : ∀ i < keys.length, keys'[move i]? = keys[i]?
  idxOf_eq : ∀ k ∈ keys, keys'.idxOf k = move (keys.idxOf k)

namespace Moves

theorem length_eq (h : Moves move keys keys') : keys'.length = keys.length := by
  have hlength := h.perm.length_eq
  rw [List.length_map, List.length_range, List.length_range] at hlength
  exact hlength.symm

theorem injective (h : Moves move keys keys') (hi : i < keys.length) (hj : j < keys.length)
    (he : move i = move j) : i = j := by
  have hnodup : ((List.range keys.length).map move).Nodup :=
    h.perm.nodup_iff.mpr List.nodup_range
  exact List.inj_on_of_nodup_map hnodup (List.mem_range.mpr hi) (List.mem_range.mpr hj) he

/-- **What stands at a position** is what stood where the position comes from. -/
theorem getElem?_eq_some_iff (h : Moves move keys keys') :
    keys'[j]? = some k ↔ ∃ i, keys[i]? = some k ∧ move i = j := by
  constructor
  · intro hk
    have hj : j ∈ (List.range keys.length).map move := by
      rw [h.perm.mem_iff, List.mem_range]
      exact (List.getElem?_eq_some_iff.mp hk).1
    obtain ⟨i, hi, rfl⟩ := List.mem_map.mp hj
    rw [h.getElem?_eq i (List.mem_range.mp hi)] at hk
    exact ⟨i, hk, rfl⟩
  · rintro ⟨i, hk, rfl⟩
    rw [h.getElem?_eq i (List.getElem?_eq_some_iff.mp hk).1]
    exact hk

theorem mem_iff (h : Moves move keys keys') : k ∈ keys' ↔ k ∈ keys := by
  rw [List.mem_iff_getElem?, List.mem_iff_getElem?]
  simp only [h.getElem?_eq_some_iff]
  constructor
  · rintro ⟨-, i, hk, -⟩
    exact ⟨i, hk⟩
  · rintro ⟨i, hk⟩
    exact ⟨move i, i, hk, rfl⟩

/-- The first position of a key is where the first position of the key has gone. -/
theorem idxOf_eq_iff (h : Moves move keys keys') (hk : keys[i]? = some k) :
    keys'.idxOf k = move i ↔ keys.idxOf k = i := by
  have hmem : k ∈ keys := List.mem_of_getElem? hk
  rw [h.idxOf_eq k hmem]
  constructor
  · exact h.injective (List.idxOf_lt_length_of_mem hmem) (List.getElem?_eq_some_iff.mp hk).1
  · exact congrArg move

section SameSuccessors

variable (h : Moves move keys keys') (hsucc : ∀ v, g'.successors v = g.successors v)

include h hsucc

/-- A position frees the same keys wherever it stands. -/
theorem freedBy_eq (hi : i < keys.length) : g'.freedBy keys' (move i) = g.freedBy keys i := by
  have hk : keys[i]? = some keys[i] := List.getElem?_eq_getElem hi
  rw [freedBy, freedBy, h.getElem?_eq i hi, hk]
  simp only [h.idxOf_eq_iff hk, hsucc]

theorem isSource_iff : g'.IsSource keys' j ↔ ∃ i, g.IsSource keys i ∧ move i = j := by
  simp only [IsSource, h.getElem?_eq_some_iff, arrow_iff_of_successors_eq hsucc]
  constructor
  · rintro ⟨k, ⟨i, hk, hi⟩, hnone⟩
    exact ⟨i, ⟨k, hk, hnone⟩, hi⟩
  · rintro ⟨i, ⟨k, hk, hnone⟩, hi⟩
    exact ⟨k, ⟨i, hk, hi⟩, hnone⟩

theorem isLeftOver_iff : g'.IsLeftOver keys' j ↔ ∃ i, g.IsLeftOver keys i ∧ move i = j := by
  simp only [IsLeftOver, h.getElem?_eq_some_iff, arrow_iff_of_successors_eq hsucc,
    behindCycle_iff_of_successors_eq hsucc]
  constructor
  · rintro ⟨k, ⟨i, hk, rfl⟩, hleft⟩
    rw [ne_eq, h.idxOf_eq_iff hk] at hleft
    exact ⟨i, ⟨k, hk, hleft⟩, rfl⟩
  · rintro ⟨i, ⟨k, hk, hleft⟩, rfl⟩
    refine ⟨k, ⟨i, hk, rfl⟩, ?_⟩
    rw [ne_eq, h.idxOf_eq_iff hk]
    exact hleft

end SameSuccessors

end Moves

/-! ## The run, moved -/

namespace Progress

variable {s s' : Progress κ} {rest : List Nat}

/-- The same progress at moved positions. -/
structure MovedTo (move : Nat → Nat) (keys : List κ) (s s' : Progress κ) : Prop where
  queue_eq : s'.queue = s.queue.map move
  placed_eq : s'.placed = s.placed.map move
  pendingOf_eq : ∀ k ∈ keys, s'.pendingOf k = s.pendingOf k

section SameSuccessors

variable (hg : g.On keys) (hg' : g'.On keys') (h : Moves move keys keys')
variable (hsucc : ∀ v, g'.successors v = g.successors v)

include hg h hsucc

/-- What joins the queue at a moved position is what joins it at the position,
moved. -/
theorem MovedTo.joining_eq (hs : s.MovedTo move keys s') (hi : i < keys.length) :
    s'.joining g' keys' (move i) = (s.joining g keys i).map move := by
  have hmem : ∀ w ∈ g.freedBy keys i, w ∈ keys := by
    intro w hw
    obtain ⟨v, hv, -⟩ := (mem_freedBy hg).mp hw
    exact hg.target_mem hv
  have hlast : ((g.freedBy keys i).filter fun w => s'.pendingOf w ≤ 1) =
      (g.freedBy keys i).filter fun w => s.pendingOf w ≤ 1 :=
    List.filter_congr fun w hw => by rw [hs.pendingOf_eq w (hmem w hw)]
  rw [joining, joining, h.freedBy_eq hsucc hi, hlast, List.map_map]
  exact List.map_congr_left fun w hw => h.idxOf_eq w (hmem w (List.mem_filter.mp hw).1)

/-- **A turn at a moved position is the turn, moved.** -/
theorem MovedTo.advance (hs : s.MovedTo move keys s') (hlt : ∀ i ∈ s.queue, i < keys.length) :
    (s.advance g keys).MovedTo move keys (s'.advance g' keys') := by
  cases hq : s.queue with
  | nil =>
    have hq' : s'.queue = [] := by rw [hs.queue_eq, hq, List.map_nil]
    rw [advance_of_queue_eq_nil hq, advance_of_queue_eq_nil hq']
    exact hs
  | cons i rest =>
    have hi : i < keys.length := hlt i (by rw [hq]; exact List.mem_cons_self)
    have hq' : s'.queue = move i :: rest.map move := by rw [hs.queue_eq, hq, List.map_cons]
    exact {
      queue_eq := by
        rw [queue_advance hq, queue_advance hq', hs.joining_eq hg h hsucc hi, List.map_append]
      placed_eq := by
        rw [placed_advance hq, placed_advance hq', hs.placed_eq, List.map_append]
        rfl
      pendingOf_eq := fun k hk => by
        rw [pendingOf_advance hq, pendingOf_advance hq', h.freedBy_eq hsucc hi,
          hs.pendingOf_eq k hk] }

include hg'

/-- The start is moved if the positions without predecessors keep their order. -/
theorem movedTo_start (hsources : StrictMonoOn move {i | g.IsSource keys i}) :
    (start g keys).MovedTo move keys (start g' keys') where
  queue_eq := enumerates_queue_start.eq
    (enumerates_queue_start.map hsources fun _ => h.isSource_iff hsucc)
  placed_eq := rfl
  pendingOf_eq := fun k hk => by
    rw [pendingOf_start hg hk, pendingOf_start hg' (h.mem_iff.mpr hk),
      inDegree_eq_of_successors_eq hsucc]

/-- **A run at moved positions is the run, moved.** -/
theorem movedTo_after (hsources : StrictMonoOn move {i | g.IsSource keys i}) (n : Nat) :
    (after g keys n).MovedTo move keys (after g' keys' n) := by
  induction n with
  | zero => exact movedTo_start hg hg' h hsucc hsources
  | succ n ih =>
    have hbalanced : (after g keys n).Balanced g keys := balanced_after hg n
    exact ih.advance hg h hsucc fun i hi => hbalanced.lt_length (List.mem_append_right _ hi)

end SameSuccessors

end Progress

/-- **The order at moved positions is the order, moved**, as long as the positions
without predecessors keep their order, and those that are left over keep theirs. -/
theorem topologicalOrder_moved (h : Moves move keys keys')
    (hsucc : ∀ v, (between keys' links').successors v = (between keys links).successors v)
    (hsources : StrictMonoOn move {i | (between keys links).IsSource keys i})
    (htail : StrictMonoOn move {i | (between keys links).IsLeftOver keys i}) :
    topologicalOrder keys' links' = (topologicalOrder keys links).map move := by
  have hg := on_between keys links
  have hg' := on_between keys' links'
  have hplaced : (final (between keys' links') keys').placed =
      (final (between keys links) keys).placed.map move := by
    rw [final, h.length_eq]
    exact (movedTo_after hg hg' h hsucc hsources keys.length).placed_eq
  have hrest : tailOf (between keys' links') keys' = (tailOf (between keys links) keys).map move :=
    (enumerates_tailOf hg').eq
      ((enumerates_tailOf hg).map htail fun _ => h.isLeftOver_iff hsucc)
  rw [topologicalOrder_eq, topologicalOrder_eq, hplaced, hrest, List.map_append]

end Flowchart
