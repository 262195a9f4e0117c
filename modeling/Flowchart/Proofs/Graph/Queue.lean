import Flowchart.Proofs.Graph.Release

/-!
# The run of the queue

`Balanced` is what no turn of the queue breaks. The number kept for a key is
the number of predecessors that it waits for, so it is never counted below
zero. The positions lined up, those placed and those that wait, are each
lined up once, and they are the ones that may come out by now: the first
position of every key that waits for nothing, and all positions of a key
without predecessors. And whatever is lined up stands behind the first
positions of all predecessors of its key.

A turn keeps it (`Balanced.advance`), so it holds after any number of turns
(`balanced_after`). No position is placed twice, so one turn for every position
empties the queue (`queue_final`), and then exactly the keys that are not
behind a cycle have been reached (`mem_placed_final`).
-/

namespace Flowchart

/-! ## One before the other -/

/-- The one stands in the list before the other. -/
def Before (l : List Nat) (i j : Nat) : Prop :=
  i ∈ l ∧ j ∈ l ∧ l.idxOf i < l.idxOf j

namespace Before

variable {l m : List Nat} {i j k : Nat}

theorem irrefl (i : Nat) : ¬ Before l i i :=
  fun h => Nat.lt_irrefl _ h.2.2

theorem trans (hij : Before l i j) (hjk : Before l j k) : Before l i k :=
  ⟨hij.1, hjk.2.1, hij.2.2.trans hjk.2.2⟩

/-- What is appended to the list does not come between. -/
theorem append (h : Before l i j) (m : List Nat) : Before (l ++ m) i j := by
  obtain ⟨hi, hj, hlt⟩ := h
  refine ⟨List.mem_append_left m hi, List.mem_append_left m hj, ?_⟩
  rwa [List.idxOf_append_of_mem hi, List.idxOf_append_of_mem hj]

/-- What is appended stands behind what was there. -/
theorem of_append (hi : i ∈ l) (hj : j ∈ m) (hnew : j ∉ l) : Before (l ++ m) i j := by
  refine ⟨List.mem_append_left m hi, List.mem_append_right l hj, ?_⟩
  have hlt := List.idxOf_lt_length_of_mem hi
  rw [List.idxOf_append_of_mem hi, List.idxOf_append_of_notMem hnew]
  omega

end Before

namespace Progress

open Flowchart.Graph

variable {κ : Type} [DecidableEq κ] {g : Graph κ} {keys : List κ}
variable {s : Progress κ} {k v w : κ} {i j : Nat} {rest : List Nat}

/-- **The invariant of the queue.** -/
structure Balanced (g : Graph κ) (keys : List κ) (s : Progress κ) : Prop where
  /-- The number kept for a key counts the predecessors that it waits for. -/
  pendingOf_eq : ∀ k ∈ keys, s.pendingOf k = (g.waitedFor keys s.placed k).length
  /-- No position is lined up twice. -/
  nodup : s.lineUp.Nodup
  /-- Of a key that waits for nothing the first position is lined up, and all
  of them if it has no predecessors; no other position is. -/
  mem_lineUp : ∀ j, j ∈ s.lineUp ↔ ∃ k, keys[j]? = some k ∧
    g.waitedFor keys s.placed k = [] ∧ (keys.idxOf k = j ∨ ∀ v, ¬ g.Arrow v k)
  /-- The first position of a key is lined up before every position of a
  successor. -/
  source_first : ∀ j ∈ s.lineUp, ∀ k v, keys[j]? = some k → g.Arrow v k →
    Before s.lineUp (keys.idxOf v) j

/-! ## The start -/

theorem lookup_pending_start (hg : g.On keys) (hk : k ∈ keys) :
    (start g keys).pending.lookup k = some (g.inDegree k) :=
  List.lookup_graph g.inDegree ((hg.mem_vertices k).mpr hk)

theorem pendingOf_start (hg : g.On keys) (hk : k ∈ keys) :
    (start g keys).pendingOf k = g.inDegree k := by
  rw [pendingOf, lookup_pending_start hg hk, Option.getD_some]

theorem inDegree_eq_zero_iff : g.inDegree k = 0 ↔ ∀ v, ¬ g.Arrow v k := by
  rw [← length_waitedFor_nil [], List.length_eq_zero_iff, waitedFor_eq_nil_iff]
  simp

/-- Whoever waits first has no predecessors. -/
theorem mem_queue_start : j ∈ (start g keys).queue ↔
    ∃ k, keys[j]? = some k ∧ ∀ v, ¬ g.Arrow v k := by
  simp only [start, List.mem_filter, List.mem_range, Option.any_eq_true, decide_eq_true_eq,
    inDegree_eq_zero_iff]
  constructor
  · exact fun ⟨_, h⟩ => h
  · rintro ⟨k, hk, hv⟩
    exact ⟨(List.getElem?_eq_some_iff.mp hk).1, k, hk, hv⟩

/-- And they wait in the order in which they are given. -/
theorem pairwise_queue_start : (start g keys).queue.Pairwise (· < ·) :=
  List.pairwise_lt_range.filter _

theorem lineUp_start : (start g keys).lineUp = (start g keys).queue :=
  List.nil_append _

/-- **The invariant holds at the start.** -/
theorem balanced_start (hg : g.On keys) : (start g keys).Balanced g keys where
  pendingOf_eq := fun k hk => by
    rw [pendingOf_start hg hk, ← length_waitedFor_nil keys]
    rfl
  nodup := by
    rw [lineUp_start]
    exact pairwise_queue_start.imp Nat.ne_of_lt
  mem_lineUp := fun j => by
    rw [lineUp_start, mem_queue_start]
    -- nothing is placed, so to wait for nothing is to have no predecessors
    have hnone : ∀ k, g.waitedFor keys (start g keys).placed k = [] ↔ ∀ v, ¬ g.Arrow v k := by
      intro k
      rw [waitedFor_eq_nil_iff]
      simp [start]
    simp only [hnone]
    constructor
    · rintro ⟨k, hk, hv⟩
      exact ⟨k, hk, hv, Or.inr hv⟩
    · rintro ⟨k, hk, hv, -⟩
      exact ⟨k, hk, hv⟩
  source_first := fun j hj k v hk ha => by
    rw [lineUp_start, mem_queue_start] at hj
    obtain ⟨k', hk', hnone⟩ := hj
    obtain rfl := Option.some.inj (hk.symm.trans hk')
    exact absurd ha (hnone v)

/-! ## One turn -/

namespace Balanced

theorem lt_length (h : s.Balanced g keys) (hj : j ∈ s.lineUp) : j < keys.length := by
  obtain ⟨k, hk, -⟩ := (h.mem_lineUp j).mp hj
  exact (List.getElem?_eq_some_iff.mp hk).1

/-- No more positions are lined up than there are. -/
theorem length_lineUp_le (h : s.Balanced g keys) : s.lineUp.length ≤ keys.length := by
  have hsubset : s.lineUp ⊆ List.range keys.length :=
    fun j hj => List.mem_range.mpr (h.lt_length hj)
  have hle := h.nodup.length_le_of_subset hsubset
  rwa [List.length_range] at hle

theorem idxOf_mem_lineUp (h : s.Balanced g keys) (hk : k ∈ keys)
    (hw : g.waitedFor keys s.placed k = []) : keys.idxOf k ∈ s.lineUp :=
  (h.mem_lineUp _).mpr ⟨k, List.getElem?_idxOf hk, hw, Or.inl rfl⟩

theorem notMem_placed (h : s.Balanced g keys) (hq : s.queue = i :: rest) : i ∉ s.placed := by
  intro hi
  have hnodup := h.nodup
  rw [lineUp, hq] at hnodup
  exact List.disjoint_of_nodup_append hnodup hi List.mem_cons_self

/-- A key that a turn releases was waiting for the key of the position. -/
theorem waitedFor_ne_nil (h : s.Balanced g keys) (hg : g.On keys) (hq : s.queue = i :: rest)
    (hw : w ∈ g.freedBy keys i) : g.waitedFor keys s.placed w ≠ [] := by
  obtain ⟨v, hv, rfl⟩ := (mem_freedBy hg).mp hw
  exact List.ne_nil_of_mem (mem_waitedFor.mpr ⟨hv, h.notMem_placed hq⟩)

/-- After the turn the numbers count what is waited for then. -/
theorem pendingOf_advance_eq (h : s.Balanced g keys) (hg : g.On keys) (hq : s.queue = i :: rest)
    (hk : k ∈ keys) : (s.advance g keys).pendingOf k =
      (g.waitedFor keys (s.placed ++ [i]) k).length := by
  rw [pendingOf_advance hq, h.pendingOf_eq k hk, length_waitedFor_append hg (h.notMem_placed hq)]

/-- **What joins the queue** are the first positions of the keys released that
wait for nothing any more. -/
theorem mem_joining (h : s.Balanced g keys) (hg : g.On keys) (hq : s.queue = i :: rest) :
    j ∈ s.joining g keys i ↔
      ∃ w ∈ g.freedBy keys i, g.waitedFor keys (s.placed ++ [i]) w = [] ∧ keys.idxOf w = j := by
  -- a released key waits for one less, so for nothing if it waited for one
  have hlast : ∀ w ∈ g.freedBy keys i,
      (s.pendingOf w ≤ 1 ↔ g.waitedFor keys (s.placed ++ [i]) w = []) := by
    intro w hw
    obtain ⟨v, hv, -⟩ := (mem_freedBy hg).mp hw
    have hcount := length_waitedFor_append hg (h.notMem_placed hq) w
    rw [if_pos hw] at hcount
    rw [h.pendingOf_eq w (hg.target_mem hv), ← List.length_eq_zero_iff, hcount]
    omega
  simp only [joining, List.mem_map, List.mem_filter, decide_eq_true_eq]
  constructor
  · rintro ⟨w, ⟨hw, hone⟩, rfl⟩
    exact ⟨w, hw, (hlast w hw).mp hone, rfl⟩
  · rintro ⟨w, hw, hnone, rfl⟩
    exact ⟨w, ⟨hw, (hlast w hw).mpr hnone⟩, rfl⟩

/-- Nothing joins the queue twice, and nothing that was lined up before. -/
theorem nodup_advance (h : s.Balanced g keys) (hg : g.On keys) (hq : s.queue = i :: rest) :
    (s.advance g keys).lineUp.Nodup := by
  have hjoining : (s.joining g keys i).Nodup := by
    refine List.Nodup.map_on (fun v hv w _ he => ?_) (nodup_freedBy.filter _)
    obtain ⟨u, hu, -⟩ := (mem_freedBy hg).mp (List.mem_filter.mp hv).1
    exact (List.idxOf_inj (hg.target_mem hu)).mp he
  rw [lineUp_advance hq, List.nodup_append']
  refine ⟨h.nodup, hjoining, fun j hj hnew => ?_⟩
  -- what joins was waiting before the turn, and what was lined up was not
  obtain ⟨w, hw, -, rfl⟩ := (h.mem_joining hg hq).mp hnew
  obtain ⟨k, hk, hnone, -⟩ := (h.mem_lineUp _).mp hj
  obtain ⟨v, hv, -⟩ := (mem_freedBy hg).mp hw
  rw [List.getElem?_idxOf (hg.target_mem hv)] at hk
  obtain rfl := Option.some.inj hk
  exact h.waitedFor_ne_nil hg hq hw hnone

/-- The line-up holds what waits for nothing after the turn. -/
theorem mem_lineUp_advance (h : s.Balanced g keys) (hg : g.On keys) (hq : s.queue = i :: rest)
    (j : Nat) : j ∈ (s.advance g keys).lineUp ↔ ∃ k, keys[j]? = some k ∧
      g.waitedFor keys (s.placed ++ [i]) k = [] ∧ (keys.idxOf k = j ∨ ∀ v, ¬ g.Arrow v k) := by
  rw [lineUp_advance hq, List.mem_append]
  constructor
  · rintro (hold | hnew)
    · obtain ⟨k, hk, hnone, hplace⟩ := (h.mem_lineUp j).mp hold
      refine ⟨k, hk, waitedFor_eq_nil_iff.mpr fun v hv => ?_, hplace⟩
      exact List.mem_append_left _ (waitedFor_eq_nil_iff.mp hnone v hv)
    · obtain ⟨w, hw, hnone, rfl⟩ := (h.mem_joining hg hq).mp hnew
      obtain ⟨v, hv, -⟩ := (mem_freedBy hg).mp hw
      exact ⟨w, List.getElem?_idxOf (hg.target_mem hv), hnone, Or.inl rfl⟩
  · rintro ⟨k, hk, hnone, hplace⟩
    by_cases hbefore : g.waitedFor keys s.placed k = []
    · exact Or.inl ((h.mem_lineUp j).mpr ⟨k, hk, hbefore, hplace⟩)
    · -- a key that waited before the turn and does not wait after it was released by it
      have hfreed : k ∈ g.freedBy keys i := by
        by_contra hnot
        have hcount := length_waitedFor_append hg (h.notMem_placed hq) k
        rw [hnone, if_neg hnot] at hcount
        exact hbefore (List.length_eq_zero_iff.mp hcount.symm)
      obtain ⟨v, hv, -⟩ := (mem_freedBy hg).mp hfreed
      have hfirst : keys.idxOf k = j := hplace.resolve_right fun hsource => hsource v hv
      exact Or.inr ((h.mem_joining hg hq).mpr ⟨k, hfreed, hnone, hfirst⟩)

/-- What joins the queue stands behind all that its key waited for. -/
theorem source_first_advance (h : s.Balanced g keys) (hg : g.On keys) (hq : s.queue = i :: rest)
    (hj : j ∈ (s.advance g keys).lineUp) (hk : keys[j]? = some k) (ha : g.Arrow v k) :
    Before (s.advance g keys).lineUp (keys.idxOf v) j := by
  obtain ⟨k', hk', hnone, -⟩ := (h.mem_lineUp_advance hg hq j).mp hj
  obtain rfl := Option.some.inj (hk.symm.trans hk')
  rw [lineUp_advance hq] at hj ⊢
  by_cases hold : j ∈ s.lineUp
  · exact (h.source_first j hold k v hk ha).append _
  · have hnew : j ∈ s.joining g keys i := (List.mem_append.mp hj).resolve_left hold
    have hv : keys.idxOf v ∈ s.lineUp := by
      have hsplit : s.lineUp = s.placed ++ [i] ++ rest := by simp [lineUp, hq]
      rw [hsplit]
      exact List.mem_append_left _ (waitedFor_eq_nil_iff.mp hnone v ha)
    exact Before.of_append hv hnew hold

/-- **A turn keeps the invariant.** -/
theorem advance (h : s.Balanced g keys) (hg : g.On keys) :
    (s.advance g keys).Balanced g keys := by
  cases hq : s.queue with
  | nil =>
    rw [advance_of_queue_eq_nil hq]
    exact h
  | cons i rest =>
    exact {
      pendingOf_eq := fun k hk => by
        rw [placed_advance hq]
        exact h.pendingOf_advance_eq hg hq hk
      nodup := h.nodup_advance hg hq
      mem_lineUp := fun j => by
        rw [placed_advance hq]
        exact h.mem_lineUp_advance hg hq j
      source_first := fun j hj k v hk ha => h.source_first_advance hg hq hj hk ha }

end Balanced

/-! ## The run -/

/-- **The invariant holds after any number of turns.** -/
theorem balanced_after (hg : g.On keys) (n : Nat) : (after g keys n).Balanced g keys := by
  induction n with
  | zero => exact balanced_start hg
  | succ n ih => exact ih.advance hg

/-- A turn that finds the queue empty changes nothing, and any other places
one position. -/
theorem queue_after_or_length_placed_after (g : Graph κ) (keys : List κ) (n : Nat) :
    (after g keys n).queue = [] ∨ (after g keys n).placed.length = n := by
  induction n with
  | zero => exact Or.inr rfl
  | succ n ih =>
    rw [after]
    cases hq : (after g keys n).queue with
    | nil =>
      rw [advance_of_queue_eq_nil hq]
      exact Or.inl hq
    | cons i rest =>
      have hn : (after g keys n).placed.length = n :=
        ih.resolve_left (by rw [hq]; exact List.cons_ne_nil i rest)
      refine Or.inr ?_
      rw [placed_advance hq, List.length_append, hn]
      rfl

/-- **Who waits first comes out first.** The positions without predecessors
stay at the front of the line-up. -/
theorem queue_start_isPrefix (g : Graph κ) (keys : List κ) (n : Nat) :
    (start g keys).queue <+: (after g keys n).lineUp := by
  induction n with
  | zero =>
    rw [after, lineUp_start]
  | succ n ih =>
    rw [after]
    cases hq : (after g keys n).queue with
    | nil =>
      rw [advance_of_queue_eq_nil hq]
      exact ih
    | cons i rest =>
      rw [lineUp_advance hq]
      exact ih.trans (List.prefix_append _ _)

/-! ## The end -/

/-- The state after one turn for every position. -/
def final (g : Graph κ) (keys : List κ) : Progress κ :=
  after g keys keys.length

theorem balanced_final (hg : g.On keys) : (final g keys).Balanced g keys :=
  balanced_after hg _

/-- **One turn for every position empties the queue.** -/
theorem queue_final (hg : g.On keys) : (final g keys).queue = [] := by
  rcases queue_after_or_length_placed_after g keys keys.length with hempty | hlength
  · exact hempty
  · -- as many positions are placed as there are, so no more can be lined up
    have hle := (balanced_final hg).length_lineUp_le
    rw [lineUp, List.length_append, final, hlength] at hle
    exact List.length_eq_zero_iff.mp (by rw [final]; omega)

theorem lineUp_final (hg : g.On keys) : (final g keys).lineUp = (final g keys).placed := by
  rw [lineUp, queue_final hg, List.append_nil]

/-- Who is placed comes behind the first positions of its predecessors. -/
theorem before_of_arrow (hg : g.On keys) (hj : j ∈ (final g keys).placed) (hk : keys[j]? = some k)
    (ha : g.Arrow v k) : Before (final g keys).placed (keys.idxOf v) j := by
  rw [← lineUp_final hg] at hj ⊢
  exact (balanced_final hg).source_first j hj k v hk ha

/-- And so it does behind whatever has a path to it. -/
theorem before_of_transGen (hg : g.On keys) (hp : Relation.TransGen g.Arrow v w)
    (hw : keys.idxOf w ∈ (final g keys).placed) :
    Before (final g keys).placed (keys.idxOf v) (keys.idxOf w) := by
  induction hp with
  | single ha => exact before_of_arrow hg hw (List.getElem?_idxOf (hg.target_mem ha)) ha
  | tail _ ha ih =>
    -- the last arrow shows that the vertex before it is placed, which the rest asks for
    have hlast := before_of_arrow hg hw (List.getElem?_idxOf (hg.target_mem ha)) ha
    exact (ih hlast.1).trans hlast

/-- **The keys that wait for nothing in the end** are those that are not
behind a cycle. -/
theorem waitedFor_final_eq_nil_iff (hg : g.On keys) (hk : k ∈ keys) :
    g.waitedFor keys (final g keys).placed k = [] ↔ ¬ g.BehindCycle k := by
  have hplaced : ∀ {k}, k ∈ keys → g.waitedFor keys (final g keys).placed k = [] →
      keys.idxOf k ∈ (final g keys).placed := by
    intro k hk hnone
    rw [← lineUp_final hg]
    exact (balanced_final hg).idxOf_mem_lineUp hk hnone
  constructor
  · rintro hnone ⟨c, hcycle, hreach⟩
    have hkmem := hplaced hk hnone
    have hcmem : keys.idxOf c ∈ (final g keys).placed := by
      rcases Relation.reflTransGen_iff_eq_or_transGen.mp hreach with rfl | hpath
      · exact hkmem
      · exact (before_of_transGen hg hpath hkmem).1
    -- a key on a cycle would have been placed before itself
    exact Before.irrefl _ (before_of_transGen hg hcycle hcmem)
  · refine not_behindCycle_induction (P := fun k => g.waitedFor keys _ k = []) fun k _ ih => ?_
    exact waitedFor_eq_nil_iff.mpr fun v ha => hplaced (hg.source_mem ha) (ih v ha)

/-- **What the queue places** are the positions of the keys that are not behind
a cycle: the first one of each, and all of them if the key has no
predecessors. -/
theorem mem_placed_final (hg : g.On keys) : j ∈ (final g keys).placed ↔
    ∃ k, keys[j]? = some k ∧ ¬ g.BehindCycle k ∧ (keys.idxOf k = j ∨ ∀ v, ¬ g.Arrow v k) := by
  rw [← lineUp_final hg, (balanced_final hg).mem_lineUp]
  refine exists_congr fun k => and_congr_right fun hk => and_congr_left fun _ => ?_
  exact waitedFor_final_eq_nil_iff hg (List.mem_of_getElem? hk)

/-- So the queue tells which keys are behind a cycle, -/
theorem idxOf_mem_placed_final_iff (hg : g.On keys) (hk : k ∈ keys) :
    keys.idxOf k ∈ (final g keys).placed ↔ ¬ g.BehindCycle k := by
  have hget : keys[keys.idxOf k]? = some k := List.getElem?_idxOf hk
  rw [mem_placed_final hg]
  constructor
  · rintro ⟨k', hk', hordered, -⟩
    obtain rfl := Option.some.inj (hget.symm.trans hk')
    exact hordered
  · exact fun hordered => ⟨k, hget, hordered, Or.inl rfl⟩

/-- and whether there are cycles at all. -/
theorem forall_not_onCycle_iff (hg : g.On keys) :
    (∀ v, ¬ g.OnCycle v) ↔ ∀ k ∈ keys, keys.idxOf k ∈ (final g keys).placed := by
  constructor
  · intro hacyclic k hk
    refine (idxOf_mem_placed_final_iff hg hk).mpr ?_
    rintro ⟨c, hcycle, -⟩
    exact hacyclic c hcycle
  · intro hall v hcycle
    obtain ⟨w, ha, -⟩ := Relation.TransGen.head'_iff.mp hcycle
    have hv : v ∈ keys := hg.source_mem ha
    exact (idxOf_mem_placed_final_iff hg hv).mp (hall v hv) hcycle.behindCycle

end Progress

end Flowchart
