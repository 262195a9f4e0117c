import Flowchart.Proofs.Graph.Component
import Mathlib.Data.List.Fold
import Mathlib.Data.List.MinMax
import Mathlib.Order.Bounds.Defs

/-!
# What the ranks are

A breadth-first search reaches every vertex on a shortest way. The queue never
holds more than two ranks, the lower one in front (`Levelled`), so what a vertex
discovers gets the lowest rank that it could get (`exists_rank_of_next`). In a
component the rank of a vertex is therefore the length of a shortest walk to it
from one of the roots, and 0 if there is no such walk (`isRank_rankIn`), where
walks may run through the whole graph: one that ends in the component has not
left it.

`ranked` only sorts by rank: it holds every vertex once, under its rank
(`exists_ranked_eq`, `ranked_perm`).
-/

namespace Flowchart.Graph

open Relation

variable {κ : Type} {u v w : κ} {m n r : Nat}

/-! ## Walks -/

/-- A walk of so many steps leads from one vertex to the other. -/
def Steps (r : κ → κ → Prop) : Nat → κ → κ → Prop
  | 0, v, w => v = w
  | n + 1, v, w => ∃ u, Steps r n v u ∧ r u w

theorem Steps.head {r : κ → κ → Prop} (huv : r u v) (h : Steps r n v w) :
    Steps r (n + 1) u w := by
  induction n generalizing w with
  | zero => exact ⟨u, rfl, h ▸ huv⟩
  | succ n ih =>
    obtain ⟨x, hx, hxw⟩ := h
    exact ⟨x, ih hx, hxw⟩

/-- Paths are walks of some length. -/
theorem reflTransGen_iff_exists_steps {r : κ → κ → Prop} :
    ReflTransGen r v w ↔ ∃ n, Steps r n v w := by
  constructor
  · intro h
    induction h with
    | refl => exact ⟨0, rfl⟩
    | tail _ hstep ih =>
      obtain ⟨n, hn⟩ := ih
      exact ⟨n + 1, _, hn, hstep⟩
  · rintro ⟨n, h⟩
    induction n generalizing w with
    | zero => exact h ▸ ReflTransGen.refl
    | succ n ih =>
      obtain ⟨u, hu, huw⟩ := h
      exact (ih hu).tail huw

/-! ## Breadth-first search -/

variable {next : κ → List κ} {fresh : List κ} {queue : List (κ × Nat)}

/-- The ranks in a queue do not decrease, and no two differ by more than one. -/
structure Levelled (queue : List (κ × Nat)) : Prop where
  sorted : queue.Pairwise fun e f => e.2 ≤ f.2
  close : ∀ e ∈ queue, ∀ f ∈ queue, f.2 ≤ e.2 + 1

section Levelled

variable {found : List κ} {e : κ × Nat}

/-- What stands behind a vertex in the queue, or is discovered by it, has its
rank or the next. -/
theorem Levelled.bounds (h : Levelled ((v, n) :: queue))
    (he : e ∈ queue ++ found.map fun w => (w, n + 1)) : n ≤ e.2 ∧ e.2 ≤ n + 1 := by
  rcases List.mem_append.mp he with hold | hnew
  · exact ⟨(List.pairwise_cons.mp h.sorted).1 e hold,
      h.close _ List.mem_cons_self e (List.mem_cons_of_mem _ hold)⟩
  · obtain ⟨w, -, rfl⟩ := List.mem_map.mp hnew
    exact ⟨Nat.le_succ n, Nat.le_refl _⟩

/-- **A turn keeps the queue in order.** -/
theorem Levelled.step (h : Levelled ((v, n) :: queue)) :
    Levelled (queue ++ found.map fun w => (w, n + 1)) where
  sorted := by
    have hnew : ∀ e ∈ found.map fun w => (w, n + 1), e.2 = n + 1 := by
      intro e he
      obtain ⟨w, -, rfl⟩ := List.mem_map.mp he
      rfl
    rw [List.pairwise_append]
    refine ⟨(List.pairwise_cons.mp h.sorted).2, ?_, fun e he f hf => ?_⟩
    · exact List.pairwise_of_forall_mem_list fun e he f hf => (hnew e he).trans_le (hnew f hf).ge
    · rw [hnew f hf]
      exact h.close _ List.mem_cons_self e (List.mem_cons_of_mem _ he)
  close := fun e he f hf => by
    have hlower := (h.bounds he).1
    have hupper := (h.bounds hf).2
    omega

end Levelled

variable [DecidableEq κ]

theorem mem_spread_of_mem_queue {e : κ × Nat} (h : e ∈ queue) : e ∈ spread next fresh queue := by
  fun_induction spread next fresh queue with
  | case1 => exact absurd h List.not_mem_nil
  | case2 fresh v n queue found ih =>
    rcases List.mem_cons.mp h with rfl | h
    · exact List.mem_cons_self
    · exact List.mem_cons_of_mem _ (ih (List.mem_append_left _ h))

/-- **Nothing is reached in vain.** To every vertex with a rank a walk of that
many steps more leads from the queue. -/
theorem exists_steps_of_mem_spread (h : (w, m) ∈ spread next fresh queue) :
    ∃ e ∈ queue, ∃ k, m = e.2 + k ∧ Steps (fun v w => w ∈ next v) k e.1 w := by
  fun_induction spread next fresh queue with
  | case1 => exact absurd h List.not_mem_nil
  | case2 fresh v n queue found ih =>
    rcases List.mem_cons.mp h with he | h
    · obtain ⟨rfl, rfl⟩ := Prod.mk.inj he
      exact ⟨(w, m), List.mem_cons_self, 0, rfl, rfl⟩
    · obtain ⟨e, he, k, hk, hsteps⟩ := ih h
      rcases List.mem_append.mp he with hold | hnew
      · exact ⟨e, List.mem_cons_of_mem _ hold, k, hk, hsteps⟩
      · obtain ⟨u, hu, rfl⟩ := List.mem_map.mp hnew
        have hnext : u ∈ next v := (mem_discovered.mp hu).1
        refine ⟨(v, n), List.mem_cons_self, k + 1, ?_, Steps.head hnext hsteps⟩
        simp only at hk ⊢
        omega

theorem le_of_mem_spread (hlower : ∀ e ∈ queue, r ≤ e.2) {e : κ × Nat}
    (h : e ∈ spread next fresh queue) : r ≤ e.2 := by
  obtain ⟨f, hf, k, hk, -⟩ := exists_steps_of_mem_spread h
  have hr := hlower f hf
  omega

/-- **What a vertex discovers is one rank further at most.** -/
theorem exists_rank_of_next (hlevel : Levelled queue) (hv : (v, n) ∈ spread next fresh queue)
    (hnext : w ∈ next v) (hw : w ∈ fresh) : ∃ m ≤ n + 1, (w, m) ∈ spread next fresh queue := by
  fun_induction spread next fresh queue with
  | case1 => exact absurd hv List.not_mem_nil
  | case2 fresh u k queue found ih =>
    by_cases hfound : w ∈ found
    · -- the vertex that discovers it has no higher rank than any later one
      have hk : k ≤ n := by
        rcases List.mem_cons.mp hv with he | hlater
        · exact (Prod.mk.inj he).2.ge
        · exact le_of_mem_spread (fun e he => (hlevel.bounds he).1) hlater
      refine ⟨k + 1, by omega, List.mem_cons_of_mem _ (mem_spread_of_mem_queue ?_)⟩
      exact List.mem_append_right _ (List.mem_map.mpr ⟨w, hfound, rfl⟩)
    · have hne : (v, n) ≠ (u, k) := by
        rintro he
        obtain ⟨rfl, -⟩ := Prod.mk.inj he
        exact hfound (mem_discovered.mpr ⟨hnext, hw⟩)
      have hlater := (List.mem_cons.mp hv).resolve_left hne
      obtain ⟨m, hm, hmem⟩ := ih hlevel.step hlater (mem_without.mpr ⟨hw, hfound⟩)
      exact ⟨m, hm, List.mem_cons_of_mem _ hmem⟩

/-- The vertices that a search reaches were in the queue or fresh, and it
reaches none twice. -/
theorem keys_spread_perm (next : κ → List κ) (fresh : List κ) (queue : List (κ × Nat)) :
    ∃ reached, ((spread next fresh queue).map Prod.fst).Perm (queue.map Prod.fst ++ reached) ∧
      reached.Nodup ∧ reached ⊆ fresh := by
  fun_induction spread next fresh queue with
  | case1 => exact ⟨[], by simp⟩
  | case2 fresh v n queue found ih =>
    obtain ⟨reached, hperm, hnodup, hsubset⟩ := ih
    refine ⟨found ++ reached, ?_, ?_, ?_⟩
    · have hkeys : (found.map fun w => (w, n + 1)).map Prod.fst = found := by
        simp [Function.comp_def]
      rw [List.map_append, hkeys, List.append_assoc] at hperm
      exact hperm.cons v
    · rw [List.nodup_append']
      refine ⟨nodup_distinct _, hnodup, fun u hu hreached => ?_⟩
      exact (mem_without.mp (hsubset hreached)).2 hu
    · intro u hu
      rcases List.mem_append.mp hu with hfound | hreached
      · exact (mem_discovered.mp hfound).2
      · exact (mem_without.mp (hsubset hreached)).1

/-! ## The ranks of a component -/

variable {g : Graph κ} {c : List κ}

theorem roots_subset (g : Graph κ) (c : List κ) : g.roots c ⊆ c := by
  unfold roots
  split
  · exact List.take_subset 1 c
  · exact List.filter_subset_self _

theorem nodup_roots (hc : c.Nodup) : (g.roots c).Nodup := by
  unfold roots
  split
  · exact hc.sublist (List.take_sublist 1 c)
  · exact hc.filter _

/-- No vertex is given two ranks. -/
theorem nodup_keys_rankTable (hc : c.Nodup) : ((g.rankTable c).map Prod.fst).Nodup := by
  obtain ⟨reached, hperm, hnodup, hsubset⟩ :=
    keys_spread_perm g.targets (without c (g.roots c)) ((g.roots c).map fun v => (v, 0))
  have hkeys : ((g.roots c).map fun v => (v, 0)).map Prod.fst = g.roots c := by
    simp [Function.comp_def]
  rw [hkeys] at hperm
  refine hperm.nodup_iff.mpr (List.nodup_append'.mpr ⟨nodup_roots hc, hnodup, ?_⟩)
  exact fun u hu hreached => (mem_without.mp (hsubset hreached)).2 hu

theorem rankIn_eq_of_mem {table : List (κ × Nat)} (hkeys : (table.map Prod.fst).Nodup)
    (h : (v, n) ∈ table) : rankIn table v = n := by
  obtain ⟨front, back, rfl⟩ := List.append_of_mem h
  have hlookup : (front ++ (v, n) :: back).lookup v = some n := by
    refine List.lookup_eq_some_iff.mpr ⟨front, back, rfl, fun e he => ?_⟩
    rw [List.map_append, List.nodup_append'] at hkeys
    rw [bne_iff_ne]
    rintro rfl
    exact hkeys.2.2 (List.mem_map_of_mem he) (List.mem_map.mpr ⟨(e.1, n), List.mem_cons_self, rfl⟩)
  rw [rankIn, hlookup, Option.getD_some]

theorem rankIn_eq_zero {table : List (κ × Nat)} (h : ∀ n, (v, n) ∉ table) :
    rankIn table v = 0 := by
  have hlookup : table.lookup v = none := by
    rw [List.lookup_eq_none_iff]
    intro e he
    rw [bne_iff_ne]
    rintro rfl
    exact h e.2 he
  rw [rankIn, hlookup, Option.getD_none]

/-- Walks to a vertex of the component that start at a root do not leave it. -/
def Keeps (g : Graph κ) (c : List κ) : Prop :=
  ∀ s ∈ g.roots c, ∀ u w, g.Reaches s u → g.Arrow u w → w ∈ c → u ∈ c

/-- **A walk from a root bounds the rank** of the vertex at its end. -/
theorem exists_rank_of_steps (hc : g.Keeps c) (hs : u ∈ g.roots c) (hv : v ∈ c)
    (h : Steps g.Arrow n u v) : ∃ m ≤ n, (v, m) ∈ g.rankTable c := by
  have hroot : ∀ s ∈ g.roots c, (s, 0) ∈ g.rankTable c := fun s hs =>
    mem_spread_of_mem_queue (List.mem_map.mpr ⟨s, hs, rfl⟩)
  have hlevel : Levelled ((g.roots c).map fun v => (v, 0)) :=
    ⟨List.pairwise_map.mpr (List.pairwise_of_forall fun _ _ => Nat.le_refl 0), by simp⟩
  induction n generalizing v with
  | zero => exact ⟨0, Nat.le_refl 0, h ▸ hroot u hs⟩
  | succ n ih =>
    obtain ⟨x, hsteps, harrow⟩ := h
    by_cases hv' : v ∈ g.roots c
    · exact ⟨0, Nat.zero_le _, hroot v hv'⟩
    · have hreaches : g.Reaches u x := reflTransGen_iff_exists_steps.mpr ⟨n, hsteps⟩
      obtain ⟨k, hk, hx⟩ := ih (hc u hs x v hreaches harrow hv) hsteps
      obtain ⟨m, hm, hmem⟩ :=
        exists_rank_of_next hlevel hx (mem_targets.mpr harrow) (mem_without.mpr ⟨hv, hv'⟩)
      exact ⟨m, by omega, hmem⟩

/-- The length of a shortest walk to a vertex from one of the roots, and 0 if
there is no such walk. -/
def IsRank (g : Graph κ) (roots : Set κ) (v : κ) (n : Nat) : Prop :=
  IsLeast {k | ∃ u ∈ roots, Steps g.Arrow k u v} n ∨ n = 0 ∧ ∀ u ∈ roots, ¬ g.Reaches u v

/-- **The ranks of a component** are lengths of shortest walks. -/
theorem isRank_rankIn (hnodup : c.Nodup) (hc : g.Keeps c) (hv : v ∈ c) :
    g.IsRank {u | u ∈ g.roots c} v (rankIn (g.rankTable c) v) := by
  by_cases hfound : ∃ n, (v, n) ∈ g.rankTable c
  · obtain ⟨n, hn⟩ := hfound
    rw [rankIn_eq_of_mem (nodup_keys_rankTable hnodup) hn]
    refine Or.inl ⟨?_, ?_⟩
    · obtain ⟨e, he, k, hk, hsteps⟩ := exists_steps_of_mem_spread hn
      obtain ⟨u, hu, rfl⟩ := List.mem_map.mp he
      rw [targets_eq_arrow] at hsteps
      rw [Nat.zero_add] at hk
      exact ⟨u, hu, hk ▸ hsteps⟩
    · rintro k ⟨u, hu, hsteps⟩
      obtain ⟨m, hm, hmem⟩ := exists_rank_of_steps hc hu hv hsteps
      -- a vertex has one rank only, so it is this one that is bounded
      have hsame := rankIn_eq_of_mem (nodup_keys_rankTable hnodup) hmem
      rw [rankIn_eq_of_mem (nodup_keys_rankTable hnodup) hn] at hsame
      omega
  · refine Or.inr ⟨rankIn_eq_zero (not_exists.mp hfound), fun u hu hreaches => hfound ?_⟩
    obtain ⟨k, hsteps⟩ := reflTransGen_iff_exists_steps.mp hreaches
    obtain ⟨m, -, hmem⟩ := exists_rank_of_steps hc hu hv hsteps
    exact ⟨m, hmem⟩

/-! ## Vertices sorted by rank -/

/-- The vertices of a component that have the given rank, in its order. -/
def row (g : Graph κ) (c : List κ) (r : Nat) : List κ :=
  c.filter fun v => rankIn (g.rankTable c) v = r

theorem mem_row : v ∈ g.row c r ↔ v ∈ c ∧ rankIn (g.rankTable c) v = r := by
  simp [row]

/-- **Sorting by rank** makes a row for every rank up to the highest. -/
theorem exists_ranked_eq (g : Graph κ) (c : List κ) :
    ∃ top, g.ranked c = (List.range (top + 1)).map (fun r => (r, g.row c r)) ∧
      ∀ v ∈ c, rankIn (g.rankTable c) v ≤ top := by
  have hrow : ∀ r, ((c.map fun v => (v, rankIn (g.rankTable c) v)).filter (·.2 = r)).map (·.1) =
      g.row c r := by
    intro r
    rw [List.filter_map, List.map_map]
    exact List.map_id _
  refine ⟨(c.map fun v => (v, rankIn (g.rankTable c) v)).foldl (fun top e => max top e.2) 0, ?_,
    fun v hv => ?_⟩
  · simp only [ranked, hrow]
  · rw [← List.foldl_map, List.foldl_eq_foldr, List.map_map]
    exact List.le_max_of_le' 0 (List.mem_map_of_mem hv) (Nat.le_refl _)

/-- The rows hold every vertex once. -/
theorem ranked_perm (hc : c.Nodup) : ((g.ranked c).flatMap Prod.snd).Perm c := by
  obtain ⟨top, hranked, htop⟩ := exists_ranked_eq g c
  have hrows : (g.ranked c).flatMap Prod.snd = (List.range (top + 1)).flatMap (g.row c) := by
    rw [hranked, List.flatMap_map]
  have hnodup : ((List.range (top + 1)).flatMap (g.row c)).Nodup := by
    refine List.nodup_flatMap.mpr ⟨fun r _ => hc.filter _, ?_⟩
    refine List.pairwise_lt_range.imp fun hlt v hv hw => ?_
    have hsame := (mem_row.mp hv).2.symm.trans (mem_row.mp hw).2
    omega
  rw [hrows, List.perm_ext_iff_of_nodup hnodup hc]
  intro v
  rw [List.mem_flatMap]
  constructor
  · rintro ⟨r, -, hv⟩
    exact (mem_row.mp hv).1
  · intro hv
    exact ⟨_, List.mem_range.mpr (Nat.lt_succ_of_le (htop v hv)), mem_row.mpr ⟨hv, rfl⟩⟩

/-- And they come from the lowest rank to the highest. -/
theorem pairwise_ranked (g : Graph κ) (c : List κ) :
    ((g.ranked c).flatMap Prod.snd).Pairwise fun v w =>
      rankIn (g.rankTable c) v ≤ rankIn (g.rankTable c) w := by
  obtain ⟨top, hranked, -⟩ := exists_ranked_eq g c
  rw [hranked, List.flatMap_map, List.pairwise_flatMap]
  constructor
  · intro r _
    refine List.pairwise_of_forall_mem_list fun v hv w hw => ?_
    rw [(mem_row.mp hv).2, (mem_row.mp hw).2]
  · refine List.pairwise_lt_range.imp fun hlt v hv w hw => ?_
    rw [(mem_row.mp hv).2, (mem_row.mp hw).2]
    exact hlt.le

end Flowchart.Graph
