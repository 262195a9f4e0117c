import Flowchart.Proofs.Graph.Rank

/-!
# Groups and ranks of a graph

Both groupings give every vertex a component, a leader of it and a rank
(`componentWith`, `leader`, `rank`). A walk from a root keeps to the component
in which it ends (`keeps_component`), so ranks are lengths of walks in the graph.

Along outgoing arrows every vertex but the leader of a component has an arrow
to it, so the leader is the only root (`roots_forward`); whether it has one
itself does not matter. In both directions the component is all that is joined
with the leader, and its roots are the vertices that no arrow enters, or the
leader if there is none (`mem_component_undirected`, `mem_roots_iff`).

Taken component by component, and in each from the lowest rank to the highest,
the vertices are in an order that leaders and ranks alone tell
(`flatMap_ranked_perm`, `pairwise_flatMap_ranked`).
-/

namespace Flowchart.Graph

open Relation

variable {κ : Type} [DecidableEq κ] {g : Graph κ} {grouping : Grouping}
variable {c members : List κ} {s u v w : κ}

/-! ## The component of a vertex -/

/-- The component that holds a vertex. -/
def componentWith (g : Graph κ) (grouping : Grouping) (v : κ) : List κ :=
  ((g.components grouping).find? (v ∈ ·)).getD []

/-- The vertex that leads the component of the given one. -/
def leader (g : Graph κ) (grouping : Grouping) (v : κ) : κ :=
  (g.componentWith grouping v).headD v

/-- The rank of a vertex in its component. -/
def rank (g : Graph κ) (grouping : Grouping) (v : κ) : Nat :=
  rankIn (g.rankTable (g.componentWith grouping v)) v

/-- No other component holds the vertex. -/
theorem componentWith_eq (hg : g.Proper) (hc : c ∈ g.components grouping) (hv : v ∈ c) :
    g.componentWith grouping v = c := by
  obtain ⟨front, back, hsplit⟩ := List.append_of_mem hc
  have hdisjoint : (g.components grouping).Pairwise List.Disjoint :=
    disjoint_componentsOf hg.nodup
  have hfirst : (g.components grouping).find? (v ∈ ·) = some c := by
    rw [List.find?_eq_some_iff_append]
    refine ⟨decide_eq_true hv, front, back, hsplit, fun d hd => ?_⟩
    rw [hsplit, List.pairwise_append] at hdisjoint
    have hnot : v ∉ d := fun hvd => hdisjoint.2.2 d hd c List.mem_cons_self hvd hv
    simpa using hnot
  rw [componentWith, hfirst, Option.getD_some]

theorem exists_component_with (g : Graph κ) (grouping : Grouping) (hv : v ∈ g.vertices) :
    ∃ c ∈ g.components grouping, v ∈ c :=
  exists_component hv

theorem rank_eq (hg : g.Proper) (hc : c ∈ g.components grouping) (hv : v ∈ c) :
    g.rank grouping v = rankIn (g.rankTable c) v := by
  rw [rank, componentWith_eq hg hc hv]

/-- The rows of a component are told by the ranks of its vertices. -/
theorem row_eq_filter_rank (hg : g.Proper) (hc : c ∈ g.components grouping) (r : Nat) :
    g.row c r = c.filter fun v => g.rank grouping v = r :=
  List.filter_congr fun v hv => decide_eq_decide.mpr (by rw [rank_eq hg hc hv])

theorem mem_row_iff_rank (hg : g.Proper) (hc : c ∈ g.components grouping) {r : Nat} :
    v ∈ g.row c r ↔ v ∈ c ∧ g.rank grouping v = r := by
  rw [row_eq_filter_rank hg hc, List.mem_filter, decide_eq_true_iff]

theorem head?_component (hg : g.Proper) (hc : c ∈ g.components grouping) (hv : v ∈ c) :
    c.head? = some (g.leader grouping v) := by
  obtain ⟨s, members, rfl⟩ := exists_cons_of_mem_componentsOf hc
  rw [leader, componentWith_eq hg hc hv]
  rfl

/-- **The leader of a vertex** is the first vertex from which the search can
reach it. -/
theorem foremost_leader (hg : g.Proper) (grouping : Grouping) (hv : v ∈ g.vertices) :
    foremost (Leads (g.neighbours grouping)) g.vertices v = some (g.leader grouping v) := by
  obtain ⟨c, hc, hvc⟩ := g.exists_component_with grouping hv
  rw [← head?_component hg hc hvc]
  exact ((mem_iff_foremost hg.nodup (hg.sealed grouping) hc).mp hvc).2

/-! ## Roots -/

/-- No arrow enters the vertex. -/
def IsEntry (g : Graph κ) (v : κ) : Prop :=
  ∀ u, ¬ g.Arrow u v

theorem isEmpty_sources_iff : (g.sources v).isEmpty ↔ g.IsEntry v := by
  rw [List.isEmpty_iff, List.eq_nil_iff_forall_not_mem]
  exact forall_congr' fun u => not_congr mem_sources

/-- **The roots of a component** are the vertices that no arrow enters, or the
leader if there are none. -/
theorem mem_roots_iff : u ∈ g.roots (s :: members) ↔
    u ∈ s :: members ∧ g.IsEntry u ∨ u = s ∧ ∀ w ∈ s :: members, ¬ g.IsEntry w := by
  unfold roots
  split
  case h_1 hnone =>
    have hno : ∀ w ∈ s :: members, ¬ g.IsEntry w := fun w hw hentry =>
      List.filter_eq_nil_iff.mp hnone w hw (isEmpty_sources_iff.mpr hentry)
    rw [List.take_one, List.head?_cons, Option.toList_some, List.mem_singleton]
    constructor
    · exact fun hu => Or.inr ⟨hu, hno⟩
    · rintro (⟨hu, hentry⟩ | ⟨hu, -⟩)
      · exact absurd hentry (hno u hu)
      · exact hu
  case h_2 hsome =>
    rw [List.mem_filter, isEmpty_sources_iff]
    refine ⟨Or.inl, fun h => h.resolve_right ?_⟩
    rintro ⟨-, hno⟩
    refine hsome (List.filter_eq_nil_iff.mpr fun w hw => ?_)
    rw [isEmpty_sources_iff]
    exact hno w hw

/-- A path of the graph is one that the search follows. -/
theorem leads_of_reaches (grouping : Grouping) (h : g.Reaches v w) :
    Leads (g.neighbours grouping) v w := by
  refine ReflTransGen.mono (fun u x harrow => ?_) v w h
  cases grouping with
  | forward => exact mem_targets.mpr harrow
  | undirected => exact List.mem_append_left _ (mem_targets.mpr harrow)

/-- From the leader the search reaches the whole component. -/
theorem leads_of_mem_component (hg : g.Proper) (hc : s :: members ∈ g.components grouping)
    (hv : v ∈ s :: members) : Leads (g.neighbours grouping) s v :=
  related_of_foremost ((mem_iff_foremost hg.nodup (hg.sealed grouping) hc).mp hv).2

/-- **Walks from a root keep to the component** in which they end. -/
theorem keeps_component (hg : g.Proper) (hc : c ∈ g.components grouping) : g.Keeps c := by
  obtain ⟨s, members, rfl⟩ := exists_cons_of_mem_componentsOf hc
  intro u hu v w huv harrow hw
  have hsu := leads_of_mem_component hg hc (roots_subset g _ hu)
  exact mem_component_of_leads hg.nodup (hg.sealed grouping) hc hw rfl
    (hsu.trans (leads_of_reaches grouping huv))
    (leads_of_reaches grouping (ReflTransGen.single harrow))

/-- **The rank of a vertex** is the length of a shortest walk from a root of its
component. -/
theorem isRank_rank (hg : g.Proper) (hc : c ∈ g.components grouping) (hv : v ∈ c) :
    g.IsRank {u | u ∈ g.roots c} v (g.rank grouping v) := by
  rw [rank_eq hg hc hv]
  exact isRank_rankIn (nodup_component hg.nodup hc) (keeps_component hg hc) hv

/-! ## All components in a row -/

/-- Component by component and rank by rank, every vertex comes once. -/
theorem flatMap_ranked_perm (hg : g.Proper) (grouping : Grouping) :
    ((g.components grouping).flatMap fun c => (g.ranked c).flatMap Prod.snd).Perm g.vertices := by
  refine List.Perm.trans ?_ (componentsOf_perm (g.neighbours grouping) g.vertices)
  rw [← List.flatMap_id]
  exact List.Perm.flatMap_left _ fun c hc => ranked_perm (nodup_component hg.nodup hc)

/-- The vertices then come in the order of their leaders, and for each by rank. -/
theorem pairwise_flatMap_ranked (hg : g.Proper) (grouping : Grouping) :
    ((g.components grouping).flatMap fun c => (g.ranked c).flatMap Prod.snd).Pairwise fun v w =>
      g.vertices.idxOf (g.leader grouping v) < g.vertices.idxOf (g.leader grouping w) ∨
        g.leader grouping v = g.leader grouping w ∧ g.rank grouping v ≤ g.rank grouping w := by
  have hmem : ∀ c ∈ g.components grouping, ∀ v ∈ (g.ranked c).flatMap Prod.snd, v ∈ c :=
    fun c hc v hv => (ranked_perm (nodup_component hg.nodup hc)).subset hv
  rw [List.pairwise_flatMap]
  constructor
  · intro c hc
    refine (pairwise_ranked g c).imp_of_mem fun hv hw hle => Or.inr ?_
    have hvc := hmem c hc _ hv
    have hwc := hmem c hc _ hw
    rw [rank_eq hg hc hvc, rank_eq hg hc hwc]
    refine ⟨Option.some.inj ?_, hle⟩
    rw [← head?_component hg hc hvc, head?_component hg hc hwc]
  · refine (pairwise_componentsOf hg.nodup).imp_of_mem fun hc hd hlt v hv w hw => Or.inl ?_
    exact hlt _ (head?_component hg hc (hmem _ hc v hv)) _
      (head?_component hg hd (hmem _ hd w hw))

/-! ## Along outgoing arrows -/

/-- **Along outgoing arrows the leader is the only root.** -/
theorem roots_forward (hg : g.Proper) (hc : s :: members ∈ g.components .forward) :
    g.roots (s :: members) = [s] := by
  have hnodup := List.nodup_cons.mp (nodup_component hg.nodup hc)
  -- whoever follows the leader is reached by an arrow
  have hmembers : members.filter (fun v => (g.sources v).isEmpty) = [] := by
    refine List.filter_eq_nil_iff.mpr fun v hv => ?_
    have hreaches := leads_of_mem_component hg hc (List.mem_cons_of_mem s hv)
    rw [leads_forward] at hreaches
    rw [isEmpty_sources_iff]
    intro hentry
    obtain rfl | ⟨u, -, harrow⟩ := ReflTransGen.cases_tail hreaches
    · exact hnodup.1 hv
    · exact hentry u harrow
  unfold roots
  rw [List.filter_cons, hmembers]
  by_cases hs : (g.sources s).isEmpty <;> simp [hs]

/-- **Along outgoing arrows the rank is the distance** from the leader. -/
theorem isLeast_rank_forward (hg : g.Proper) (hv : v ∈ g.vertices) :
    IsLeast {n | Steps g.Arrow n (g.leader .forward v) v} (g.rank .forward v) := by
  obtain ⟨c, hc, hvc⟩ := g.exists_component_with .forward hv
  obtain ⟨s, members, rfl⟩ := exists_cons_of_mem_componentsOf hc
  have hleader : g.leader .forward v = s := (Option.some.inj (head?_component hg hc hvc)).symm
  have hreaches : g.Reaches s v := leads_forward g ▸ leads_of_mem_component hg hc hvc
  have hroots : {u | u ∈ g.roots (s :: members)} = {s} := by
    rw [roots_forward hg hc]
    exact Set.ext fun u => List.mem_singleton
  rw [hleader]
  have hrank := isRank_rank hg hc hvc
  rw [hroots] at hrank
  -- the leader reaches the vertex, so the rank is that of a walk
  obtain hleast | ⟨-, hnone⟩ := hrank
  · simpa using hleast
  · exact absurd hreaches (hnone s rfl)

/-! ## In both directions -/

/-- **In both directions a component is all that is joined** with its leader. -/
theorem mem_component_undirected (hg : g.Proper) (hc : s :: members ∈ g.components .undirected) :
    v ∈ s :: members ↔ g.Joined s v := by
  rw [← leads_undirected]
  constructor
  · exact leads_of_mem_component hg hc
  · intro hsv
    have hvs : Leads (g.neighbours .undirected) v s := by
      rw [leads_undirected] at hsv ⊢
      exact hsv.symm
    exact mem_component_of_leads hg.nodup (hg.sealed .undirected) hc List.mem_cons_self rfl hsv hvs

/-- The vertices joined with the given one from which ranks are counted: those
that no arrow enters, or the vertex itself if there are none. -/
def seeds (g : Graph κ) (s : κ) : Set κ :=
  {u | g.Joined s u ∧ g.IsEntry u ∨ u = s ∧ ∀ w, g.Joined s w → ¬ g.IsEntry w}

/-- **In both directions ranks are counted from the seeds.** -/
theorem isRank_rank_undirected (hg : g.Proper) (hv : v ∈ g.vertices) :
    g.IsRank (g.seeds (g.leader .undirected v)) v (g.rank .undirected v) := by
  obtain ⟨c, hc, hvc⟩ := g.exists_component_with .undirected hv
  obtain ⟨s, members, rfl⟩ := exists_cons_of_mem_componentsOf hc
  have hleader : g.leader .undirected v = s := (Option.some.inj (head?_component hg hc hvc)).symm
  have hseeds : {u | u ∈ g.roots (s :: members)} = g.seeds s := by
    refine Set.ext fun u => mem_roots_iff.trans ?_
    simp only [mem_component_undirected hg hc]
    rfl
  rw [hleader, ← hseeds]
  exact isRank_rank hg hc hvc

end Flowchart.Graph
