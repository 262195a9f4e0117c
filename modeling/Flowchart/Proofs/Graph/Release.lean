import Flowchart.Graph.TopologicalOrder
import Flowchart.Proofs.Graph.Cycle

/-!
# One turn of the queue

A turn places the next position. If it is the first of its key, every
successor of the key loses one predecessor, and the first position of a
successor that had no more than that one joins the queue (`advance_eq`,
`pendingOf_advance`, `queue_advance`, `lineUp_advance`).

The predecessors that a key still waits for are those whose first positions
are not placed (`Graph.waitedFor`). Placing a position takes one off exactly
the keys that the turn releases (`Graph.length_waitedFor_append`), which is why
counting them down is enough.
-/

namespace Flowchart

variable {κ : Type} [DecidableEq κ] {g : Graph κ} {keys : List κ}
variable {s : Progress κ} {k v w : κ} {i : Nat}

namespace Graph

/-- A graph on the keys of a list: they are its vertices, and its arrows join
them. -/
structure On (g : Graph κ) (keys : List κ) : Prop where
  mem_vertices : ∀ k, k ∈ g.vertices ↔ k ∈ keys
  source_mem : ∀ {v w}, g.Arrow v w → v ∈ keys
  target_mem : ∀ {v w}, g.Arrow v w → w ∈ keys

theorem on_between (keys : List κ) (links : List (κ × κ)) : (between keys links).On keys where
  mem_vertices := fun _ => mem_distinct
  source_mem := fun h => (mem_arrows_between.mp h).2.1
  target_mem := fun h => (mem_arrows_between.mp h).2.2

theorem mem_successors : w ∈ g.successors v ↔ g.Arrow v w := by
  rw [successors, mem_distinct, mem_targets]
  exact Iff.rfl

/-- The predecessors of a key whose first positions are still to be placed. -/
def waitedFor (g : Graph κ) (keys : List κ) (placed : List Nat) (k : κ) : List κ :=
  (distinct (g.sources k)).filter fun v => keys.idxOf v ∉ placed

theorem mem_waitedFor {placed : List Nat} :
    v ∈ g.waitedFor keys placed k ↔ g.Arrow v k ∧ keys.idxOf v ∉ placed := by
  rw [waitedFor, List.mem_filter, mem_distinct, mem_sources, decide_eq_true_eq]
  exact Iff.rfl

theorem waitedFor_eq_nil_iff {placed : List Nat} :
    g.waitedFor keys placed k = [] ↔ ∀ v, g.Arrow v k → keys.idxOf v ∈ placed := by
  rw [List.eq_nil_iff_forall_not_mem]
  simp only [mem_waitedFor, not_and, Decidable.not_not]

theorem nodup_waitedFor (placed : List Nat) (k : κ) : (g.waitedFor keys placed k).Nodup :=
  (nodup_distinct _).filter _

/-- Before anything is placed, all predecessors are waited for. -/
theorem length_waitedFor_nil (keys : List κ) (k : κ) :
    (g.waitedFor keys [] k).length = g.inDegree k := by
  simp [waitedFor, inDegree]

/-- The keys that lose a predecessor when a position is placed. -/
def freedBy (g : Graph κ) (keys : List κ) (i : Nat) : List κ :=
  match keys[i]? with
  | some k => if keys.idxOf k = i then g.successors k else []
  | none => []

theorem nodup_freedBy : (g.freedBy keys i).Nodup := by
  unfold freedBy
  split
  · split
    · exact nodup_distinct _
    · exact List.nodup_nil
  · exact List.nodup_nil

/-- They are those with a predecessor whose first position it is. -/
theorem mem_freedBy (hg : g.On keys) : w ∈ g.freedBy keys i ↔ ∃ v, g.Arrow v w ∧ keys.idxOf v = i := by
  unfold freedBy
  constructor
  · intro h
    split at h
    · rename_i k hk
      split at h
      · rename_i hfirst
        exact ⟨k, mem_successors.mp h, hfirst⟩
      · exact absurd h List.not_mem_nil
    · exact absurd h List.not_mem_nil
  · rintro ⟨v, hv, rfl⟩
    have hget : keys[keys.idxOf v]? = some v := List.getElem?_idxOf (hg.source_mem hv)
    rw [hget]
    simp [mem_successors.mpr hv]

/-- **Placing the first position of a predecessor** leaves one less to wait
for, and placing any other position leaves as many. -/
theorem length_waitedFor_append (hg : g.On keys) {placed : List Nat} (hi : i ∉ placed) (k : κ) :
    (g.waitedFor keys (placed ++ [i]) k).length =
      (g.waitedFor keys placed k).length - if k ∈ g.freedBy keys i then 1 else 0 := by
  have hstep : g.waitedFor keys (placed ++ [i]) k =
      (g.waitedFor keys placed k).filter fun v => keys.idxOf v ≠ i := by
    rw [waitedFor, waitedFor, List.filter_filter]
    refine List.filter_congr fun v _ => ?_
    simp [and_comm]
  rw [hstep]
  by_cases hk : k ∈ g.freedBy keys i
  · obtain ⟨v, hv, rfl⟩ := (mem_freedBy hg).mp hk
    -- first positions tell keys apart, so `v` is the one key that is left out
    have hone : (g.waitedFor keys placed k).filter (fun w => keys.idxOf w ≠ keys.idxOf v) =
        (g.waitedFor keys placed k).erase v := by
      rw [(nodup_waitedFor placed k).erase_eq_filter]
      refine List.filter_congr fun w hw => ?_
      have hinj : keys.idxOf w = keys.idxOf v ↔ w = v :=
        List.idxOf_inj (hg.source_mem (mem_waitedFor.mp hw).1)
      by_cases hwv : w = v <;> simp [hinj, hwv]
    rw [hone, List.length_erase_of_mem (mem_waitedFor.mpr ⟨hv, hi⟩), if_pos hk]
  · have hall : ∀ v ∈ g.waitedFor keys placed k, keys.idxOf v ≠ i := by
      intro v hv he
      exact hk ((mem_freedBy hg).mpr ⟨v, (mem_waitedFor.mp hv).1, he⟩)
    rw [List.filter_eq_self.mpr fun v hv => decide_eq_true (hall v hv), if_neg hk, Nat.sub_zero]

end Graph

namespace Progress

/-! ## One turn -/

/-- Positions in the order in which they come out: those placed, then those
that wait. -/
def lineUp (s : Progress κ) : List Nat :=
  s.placed ++ s.queue

/-- The table with one entry rewritten. -/
theorem lookup_map_update (table : List (κ × Nat)) (k : κ) (left : Nat) (w : κ) :
    (table.map fun entry => if entry.1 = k then (k, left) else entry).lookup w =
      if w = k then (table.lookup w).map fun _ => left else table.lookup w := by
  induction table with
  | nil => simp
  | cons entry table ih =>
    obtain ⟨a, n⟩ := entry
    -- rewriting keeps the key of an entry, so the same entry is found
    by_cases ha : a = k
    · subst ha
      by_cases hw : w = a
      · subst hw
        simp
      · have hbeq : (w == a) = false := beq_false_of_ne hw
        simp [List.lookup_cons, hbeq, ih, hw]
    · by_cases hw : w = a
      · subst hw
        simp [ha]
      · have hbeq : (w == a) = false := beq_false_of_ne hw
        simp [List.lookup_cons, hbeq, ih, ha]

@[simp] theorem placed_release : (s.release keys k).placed = s.placed := rfl

/-- Releasing takes one predecessor off the key and off no other. -/
theorem pendingOf_release (s : Progress κ) (k w : κ) :
    (s.release keys k).pendingOf w = s.pendingOf w - if w = k then 1 else 0 := by
  simp only [pendingOf, release, lookup_map_update]
  by_cases hw : w = k
  · subst hw
    cases s.pending.lookup w <;> simp
  · simp [hw]

/-- A key whose last predecessor is taken off joins the queue. -/
theorem queue_release (s : Progress κ) (k : κ) : (s.release keys k).queue =
    s.queue ++ if s.pendingOf k ≤ 1 then [keys.idxOf k] else [] := by
  by_cases hk : s.pendingOf k ≤ 1
  · have hzero : s.pendingOf k - 1 = 0 := by omega
    simp [release, hk, hzero]
  · have hleft : s.pendingOf k - 1 ≠ 0 := by omega
    simp [release, hk, hleft]

section Releases

variable {ws : List κ}

theorem placed_foldl_release (ws : List κ) (s : Progress κ) :
    (ws.foldl (release keys) s).placed = s.placed := by
  induction ws generalizing s with
  | nil => rfl
  | cons k ws ih => rw [List.foldl_cons, ih, placed_release]

/-- Several releases take one predecessor off each of the keys. -/
theorem pendingOf_foldl_release (hws : ws.Nodup) (s : Progress κ) (w : κ) :
    (ws.foldl (release keys) s).pendingOf w = s.pendingOf w - if w ∈ ws then 1 else 0 := by
  induction ws generalizing s with
  | nil => rfl
  | cons k ws ih =>
    rw [List.nodup_cons] at hws
    rw [List.foldl_cons, ih hws.2, pendingOf_release]
    by_cases hw : w = k
    · -- the key is released here and not again
      subst hw
      simp [hws.1]
    · simp [hw]

/-- And line up those that had one left, in their order. -/
theorem queue_foldl_release (hws : ws.Nodup) (s : Progress κ) :
    (ws.foldl (release keys) s).queue =
      s.queue ++ (ws.filter fun w => s.pendingOf w ≤ 1).map keys.idxOf := by
  induction ws generalizing s with
  | nil => simp
  | cons k ws ih =>
    rw [List.nodup_cons] at hws
    -- the releases of the other keys do not depend on that of `k`
    have hrest : (ws.filter fun w => (s.release keys k).pendingOf w ≤ 1) =
        ws.filter fun w => s.pendingOf w ≤ 1 := by
      refine List.filter_congr fun w hw => ?_
      have hne : w ≠ k := fun he => hws.1 (he ▸ hw)
      rw [pendingOf_release, if_neg hne, Nat.sub_zero]
    rw [List.foldl_cons, ih hws.2, hrest, queue_release, List.filter_cons]
    by_cases hk : s.pendingOf k ≤ 1 <;> simp [hk]

end Releases

/-- The positions that join the queue when a position is placed: the first
ones of the keys that it frees of their last predecessor. -/
def joining (g : Graph κ) (keys : List κ) (s : Progress κ) (i : Nat) : List Nat :=
  ((g.freedBy keys i).filter fun w => s.pendingOf w ≤ 1).map keys.idxOf

variable {rest : List Nat}

/-- **One turn** places the next position and then releases the keys that it
frees. -/
theorem advance_eq (hq : s.queue = i :: rest) : s.advance g keys =
    (g.freedBy keys i).foldl (release keys) { s with queue := rest, placed := s.placed ++ [i] } := by
  cases hk : keys[i]? with
  | none => simp [advance, Graph.freedBy, hq, hk]
  | some k => by_cases hfirst : keys.idxOf k = i <;> simp [advance, Graph.freedBy, hq, hk, hfirst]

theorem advance_of_queue_eq_nil (hq : s.queue = []) : s.advance g keys = s := by
  rw [advance, hq]

theorem placed_advance (hq : s.queue = i :: rest) :
    (s.advance g keys).placed = s.placed ++ [i] := by
  rw [advance_eq hq, placed_foldl_release]

theorem pendingOf_advance (hq : s.queue = i :: rest) (w : κ) : (s.advance g keys).pendingOf w =
    s.pendingOf w - if w ∈ g.freedBy keys i then 1 else 0 := by
  rw [advance_eq hq, pendingOf_foldl_release Graph.nodup_freedBy]
  rfl

/-- The queue moves up, and what joins it stands at its end. -/
theorem queue_advance (hq : s.queue = i :: rest) :
    (s.advance g keys).queue = rest ++ s.joining g keys i := by
  rw [advance_eq hq, queue_foldl_release Graph.nodup_freedBy]
  rfl

/-- **The line-up only grows.** -/
theorem lineUp_advance (hq : s.queue = i :: rest) :
    (s.advance g keys).lineUp = s.lineUp ++ s.joining g keys i := by
  rw [lineUp, placed_advance hq, queue_advance hq, lineUp, hq]
  simp

end Progress

end Flowchart
