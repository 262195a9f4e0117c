import Flowchart.Proofs.Graph.Queue
import Flowchart.Proofs.Graph.Tally
import Mathlib.Data.Finset.Card

/-!
# The counters of the queue

For every key a number is kept, and each turn of the queue takes one off the numbers
of some keys. `Accounted` is what holds before every turn: the number kept for a key
is that of the known keys with a link to it whose first position is not placed yet,
no position waits or is placed twice, and whatever the turn takes one off is there
and is not zero. So nothing is ever counted below zero.

It holds after any number of turns, and there are at most as many turns as positions
(`accounted_after`). The numbers are those that `Balanced` speaks of; what is added
here is that every known key keeps its entry in the table (`isSome_lookup_after`), and
how far the numbers are down in the midst of a turn (`lookup_pending_midTurn`).
-/

namespace Flowchart.Progress

open Flowchart.Graph

variable {κ : Type} [DecidableEq κ] {g : Graph κ} {keys : List κ} {links : List (κ × κ)}
variable {s : Progress κ} {i n : Nat} {rest : List Nat} {k t w : κ}

/-! ## Entries stay -/

/-- A release changes numbers, and no key loses its entry. -/
theorem isSome_lookup_release (s : Progress κ) (k w : κ) :
    ((s.release keys k).pending.lookup w).isSome = (s.pending.lookup w).isSome := by
  simp only [release, lookup_map_update]
  by_cases hw : w = k
  · rw [if_pos hw, Option.isSome_map]
  · rw [if_neg hw]

theorem isSome_lookup_foldl_release (ws : List κ) (s : Progress κ) (w : κ) :
    ((ws.foldl (release keys) s).pending.lookup w).isSome = (s.pending.lookup w).isSome := by
  induction ws generalizing s with
  | nil => rfl
  | cons k ws ih => rw [List.foldl_cons, ih, isSome_lookup_release]

theorem isSome_lookup_advance (s : Progress κ) (w : κ) :
    ((s.advance g keys).pending.lookup w).isSome = (s.pending.lookup w).isSome := by
  cases hq : s.queue with
  | nil => rw [advance_of_queue_eq_nil hq]
  | cons i rest => rw [advance_eq hq, isSome_lookup_foldl_release]

/-- Every known key has an entry, after any number of turns. -/
theorem isSome_lookup_after (hg : g.On keys) (hk : k ∈ keys) (n : Nat) :
    ((after g keys n).pending.lookup k).isSome := by
  induction n with
  | zero =>
    rw [after, lookup_pending_start hg hk, Option.isSome_some]
  | succ n ih => rwa [after, isSome_lookup_advance]

theorem lookup_pending_eq (h : (s.pending.lookup k).isSome) :
    s.pending.lookup k = some (s.pendingOf k) := by
  rw [pendingOf]
  obtain ⟨left, hleft⟩ := Option.isSome_iff_exists.mp h
  rw [hleft, Option.getD_some]

/-! ## In the midst of a turn -/

/-- **Before a key is released, its number is what it was before the turn.** A turn
releases no key twice, and the releases of other keys do not touch it. -/
theorem lookup_pending_midTurn {front back : List κ} (hk : g.successors k = front ++ t :: back)
    (ht : (s.pending.lookup t).isSome) (placed : List Nat) (queue : List Nat) :
    (front.foldl (release keys) { s with queue, placed }).pending.lookup t =
      some (s.pendingOf t) := by
  have hnodup : (front ++ t :: back).Nodup := by
    rw [← hk]
    exact nodup_distinct _
  have hfront : front.Nodup := (List.nodup_append'.mp hnodup).1
  have hnew : t ∉ front := fun hmem =>
    (List.nodup_append'.mp hnodup).2.2 hmem List.mem_cons_self
  rw [lookup_pending_eq (by rwa [isSome_lookup_foldl_release]), pendingOf_foldl_release hfront,
    if_neg hnew, Nat.sub_zero]
  rfl

/-- A key that the turn releases was waiting for the key of the position. -/
theorem Balanced.pendingOf_pos (h : s.Balanced g keys) (hg : g.On keys) (hq : s.queue = i :: rest)
    (hfreed : t ∈ g.freedBy keys i) : 0 < s.pendingOf t := by
  obtain ⟨v, hv, -⟩ := (mem_freedBy hg).mp hfreed
  rw [h.pendingOf_eq t (hg.target_mem hv)]
  exact List.length_pos_iff.mpr (h.waitedFor_ne_nil hg hq hfreed)

/-! ## Before every turn -/

/-- The known keys with a link to the given one whose first positions are not
placed yet. -/
def openSources (keys : List κ) (links : List (κ × κ)) (placed : List Nat) (t : κ) : Finset κ :=
  {v ∈ keys.toFinset | (v, t) ∈ links ∧ keys.idxOf v ∉ placed}

/-- They are those that the key waits for. -/
theorem card_openSources (ht : t ∈ keys) (placed : List Nat) :
    (openSources keys links placed t).card =
      ((between keys links).waitedFor keys placed t).length := by
  rw [← List.toFinset_card_of_nodup (nodup_waitedFor placed t)]
  congr 1
  ext v
  rw [openSources, Finset.mem_filter, List.mem_toFinset, List.mem_toFinset, mem_waitedFor]
  have harrow : (between keys links).Arrow v t ↔ (v, t) ∈ links ∧ v ∈ keys ∧ t ∈ keys :=
    mem_arrows_between
  rw [harrow]
  tauto

/-- **What holds before every turn.** -/
structure Accounted (keys : List κ) (links : List (κ × κ)) (s : Progress κ) : Prop where
  /-- Every known key has an entry: the number of its sources that are open. -/
  lookup_pending : ∀ t ∈ keys, s.pending.lookup t = some (openSources keys links s.placed t).card
  /-- No position waits or is placed twice, or waits once it is placed. -/
  nodup : (s.placed ++ s.queue).Nodup
  /-- What waits or is placed are positions of keys. -/
  lt_length : ∀ j ∈ s.placed ++ s.queue, j < keys.length
  /-- No more positions are placed than there are. -/
  length_placed_le : s.placed.length ≤ keys.length
  /-- If the turn takes the first position of a key, it finds an entry that is not
  zero for every successor, when it is about to take one off it. -/
  lookup_successor : ∀ i rest k front t back, s.queue = i :: rest → keys[i]? = some k →
    keys.idxOf k = i → (between keys links).successors k = front ++ t :: back →
    ∃ left, (front.foldl (release keys)
      { s with queue := rest, placed := s.placed ++ [i] }).pending.lookup t = some (left + 1)

/-- A balanced state is accounted for, if every known key has its entry. -/
theorem Balanced.accounted (h : s.Balanced (between keys links) keys)
    (hentry : ∀ k ∈ keys, (s.pending.lookup k).isSome) : Accounted keys links s where
  lookup_pending := fun t ht => by
    rw [lookup_pending_eq (hentry t ht), h.pendingOf_eq t ht, card_openSources ht]
  nodup := h.nodup
  lt_length := fun _ => h.lt_length
  length_placed_le := by
    have hle := h.length_lineUp_le
    rw [lineUp, List.length_append] at hle
    omega
  lookup_successor := fun i rest k front t back hq hk hfirst hsplit => by
    have hg := on_between keys links
    have harrow : (between keys links).Arrow k t := by
      rw [← mem_successors, hsplit]
      exact List.mem_append_right front List.mem_cons_self
    have hpos := h.pendingOf_pos hg hq ((mem_freedBy hg).mpr ⟨k, harrow, hfirst⟩)
    refine ⟨s.pendingOf t - 1, ?_⟩
    rw [lookup_pending_midTurn hsplit (hentry t (hg.target_mem harrow)), Nat.sub_add_cancel hpos]

/-! ## How many turns there are -/

/-- As long as the queue has not been empty, every turn has placed one position. -/
theorem length_placed_after (h : ∀ m < n, (after g keys m).queue ≠ []) :
    (after g keys n).placed.length = n := by
  cases n with
  | zero => rfl
  | succ n =>
    obtain ⟨i, rest, hq⟩ := List.exists_cons_of_ne_nil (h n n.lt_succ_self)
    have hn := (queue_after_or_length_placed_after g keys n).resolve_left (h n n.lt_succ_self)
    rw [after, placed_advance hq, List.length_append, hn, List.length_singleton]

/-- Once the queue is empty, nothing happens any more. -/
theorem after_add_of_queue_eq_nil (h : (after g keys n).queue = []) (m : Nat) :
    after g keys (n + m) = after g keys n := by
  induction m with
  | zero => rfl
  | succ m ih => rw [← Nat.add_assoc, after, ih, advance_of_queue_eq_nil h]

/-- **The queue runs empty**, once for all, after at most one turn for every position.
Each turn until then places one. -/
theorem exists_turns (hg : g.On keys) : ∃ turns ≤ keys.length, ∀ n,
    (after g keys n).placed.length = min n turns ∧
      ((after g keys n).queue = [] ↔ turns ≤ n) := by
  have hempty : ∃ n, (after g keys n).queue = [] := ⟨keys.length, queue_final hg⟩
  have hbusy : ∀ m < Nat.find hempty, (after g keys m).queue ≠ [] := fun m hm =>
    Nat.find_min hempty hm
  refine ⟨Nat.find hempty, Nat.find_min' hempty (queue_final hg), fun n => ?_⟩
  rcases Nat.lt_or_ge n (Nat.find hempty) with hn | hn
  · rw [length_placed_after fun m hm => hbusy m (hm.trans hn)]
    exact ⟨(min_eq_left hn.le).symm, iff_of_false (hbusy n hn) (Nat.not_le.mpr hn)⟩
  · have hstill := after_add_of_queue_eq_nil (Nat.find_spec hempty) (n - Nat.find hempty)
    rw [Nat.add_sub_cancel' hn] at hstill
    rw [hstill, length_placed_after hbusy]
    exact ⟨(min_eq_right hn).symm, iff_of_true (Nat.find_spec hempty) hn⟩

/-- **The counters are right before every turn, and the turns come to an end.** They
begin as one pass over the links counts them. There is a number of turns, not greater
than that of the positions, in each of which one position leaves the queue; after
them the queue is empty. -/
theorem accounted_after (keys : List κ) (links : List (κ × κ)) :
    let g := between keys links
    let tally := Tally.ofLinks keys links
    (∀ t ∈ keys, (start g keys).pending.lookup t = some (tally.inDegree t)) ∧
      (∀ k, g.successors k = tally.successors k) ∧
      (∀ n, Accounted keys links (after g keys n)) ∧
      ∃ turns ≤ keys.length, ∀ n, (after g keys n).placed.length = min n turns ∧
        ((after g keys n).queue = [] ↔ turns ≤ n) := by
  intro g tally
  have hg : g.On keys := on_between keys links
  have htally : tally = Tally.ofGraph g := Tally.ofLinks_eq keys links
  refine ⟨fun t ht => ?_, fun k => ?_, fun n => ?_, exists_turns hg⟩
  · rw [lookup_pending_start hg ht, htally, Tally.ofGraph]
  · rw [htally, Tally.ofGraph]
  · exact (balanced_after hg n).accounted fun k hk => isSome_lookup_after hg hk n

/-- Keys of which one is given twice, before those that it leads to. -/
def doubledKeys : List String :=
  ["A", "A", "B", "C"]

/-- Links between them: one twice, one a loop, and one from nowhere. -/
def doubledLinks : List (String × String) :=
  [("A", "B"), ("A", "B"), ("C", "C"), ("A", "C"), ("Q", "B"), ("B", "C")]

theorem accounted_after_doubled :
    let g := between doubledKeys doubledLinks
    let s := after g doubledKeys 0
    "C" ∈ doubledKeys ∧
      s.pending.lookup "C" = some ((Tally.ofLinks doubledKeys doubledLinks).inDegree "C") ∧
      s.pending.lookup "C" = some (openSources doubledKeys doubledLinks s.placed "C").card ∧
      1 ∈ s.placed ++ s.queue ∧ 1 < doubledKeys.length ∧
      s.queue = 0 :: [1] ∧ doubledKeys[0]? = some "A" ∧ doubledKeys.idxOf "A" = 0 ∧
      g.successors "A" = ["B"] ++ "C" :: [] ∧
      ∃ left, (["B"].foldl (release doubledKeys)
        { s with queue := [1], placed := s.placed ++ [0] }).pending.lookup "C" =
          some (left + 1) := by
  intro g s
  obtain ⟨htally, -, hall, -⟩ := accounted_after doubledKeys doubledLinks
  have hs : Accounted doubledKeys doubledLinks s := hall 0
  have hqueue : s.queue = 0 :: [1] := by decide +kernel
  have hsplit : g.successors "A" = ["B"] ++ "C" :: [] := by decide +kernel
  refine ⟨by decide, htally "C" (by decide), hs.lookup_pending "C" (by decide),
    by decide +kernel, hs.lt_length 1 (by decide +kernel), hqueue, rfl, by decide, hsplit, ?_⟩
  exact hs.lookup_successor 0 [1] "A" ["B"] "C" [] hqueue rfl (by decide) hsplit

end Flowchart.Progress
