import Flowchart.Proofs.Graph.Cycle
import Flowchart.Proofs.Graph.Search

/-!
# What the components are

Every vertex is in exactly one component (`componentsOf_perm`), and which one
it is does not depend on the order of the search: the component of a vertex is
led by the first vertex from which a path leads to it (`mem_iff_foremost`). The
components come in the order of their leaders (`pairwise_componentsOf`).

Along outgoing arrows these paths are those of the graph, in both directions
they join what is connected (`leads_forward`, `leads_undirected`). In either
case a path from the leader to a vertex does not leave the component
(`mem_component_of_leads`).
-/

namespace Flowchart.Graph

open Relation

variable {κ : Type} {next : κ → List κ} {fresh c rest : List κ} {s u v w : κ}

open Classical in
/-- The first of some vertices that is related to the given one. -/
noncomputable def foremost (r : κ → κ → Prop) (keys : List κ) (v : κ) : Option κ :=
  keys.find? fun u => r u v

section Foremost

variable {r : κ → κ → Prop}

theorem foremost_eq_some_iff {keys : List κ} : foremost r keys v = some s ↔
    r s v ∧ ∃ front back, keys = front ++ s :: back ∧ ∀ u ∈ front, ¬ r u v := by
  simp [foremost, List.find?_eq_some_iff_append]

theorem related_of_foremost {keys : List κ} (h : foremost r keys v = some s) : r s v :=
  (foremost_eq_some_iff.mp h).1

theorem foremost_cons_of_related (h : r s v) : foremost r (s :: rest) v = some s :=
  foremost_eq_some_iff.mpr ⟨h, [], rest, rfl, fun _ hu => absurd hu List.not_mem_nil⟩

/-- What comes first is not changed by leaving out vertices that are not
related. -/
theorem foremost_without [DecidableEq κ] {keys gone : List κ} (h : ∀ u ∈ gone, ¬ r u v) :
    foremost r (without keys gone) v = foremost r keys v := by
  rw [foremost, foremost, without, List.find?_filter]
  congr 1
  funext u
  by_cases hu : u ∈ gone
  · simp [h u hu]
  · simp [hu]

/-- Who leads a vertex leads whatever stands on a path from the one to the
other. -/
theorem foremost_of_between (htrans : ∀ {u v w}, r u v → r v w → r u w) {keys : List κ}
    (h : foremost r keys v = some s) (hsu : r s u) (huv : r u v) : foremost r keys u = some s := by
  obtain ⟨-, front, back, hkeys, hfront⟩ := foremost_eq_some_iff.mp h
  exact foremost_eq_some_iff.mpr
    ⟨hsu, front, back, hkeys, fun w hw hwu => hfront w hw (htrans hwu huv)⟩

end Foremost

variable [DecidableEq κ]

/-! ## Searches one after the other -/

/-- A search begins with the vertex from which it starts. -/
theorem head?_explore (next : κ → List κ) (h : v ∈ fresh) (stack : List κ) :
    (explore next fresh (v :: stack)).1.head? = some v := by
  rw [explore, if_pos h]
  rfl

/-- **Every vertex is in exactly one component.** -/
theorem componentsOf_perm (next : κ → List κ) (fresh : List κ) :
    (componentsOf next fresh).flatten.Perm fresh := by
  fun_induction componentsOf next fresh with
  | case1 => exact List.Perm.refl _
  | case2 v rest ih =>
    rw [List.flatten_cons]
    exact (ih.append_left _).trans (explore_perm next (v :: rest) [v])

theorem mem_fresh_of_mem_component (hc : c ∈ componentsOf next fresh) (hv : v ∈ c) : v ∈ fresh :=
  (componentsOf_perm next fresh).subset (List.mem_flatten_of_mem hc hv)

theorem exists_component (hv : v ∈ fresh) : ∃ c ∈ componentsOf next fresh, v ∈ c :=
  List.mem_flatten.mp ((componentsOf_perm next fresh).mem_iff.mpr hv)

theorem nodup_component (hfresh : fresh.Nodup) (hc : c ∈ componentsOf next fresh) : c.Nodup :=
  (List.nodup_flatten.mp ((componentsOf_perm next fresh).nodup_iff.mpr hfresh)).1 c hc

/-- Two components have no vertex in common. -/
theorem disjoint_componentsOf (hfresh : fresh.Nodup) :
    (componentsOf next fresh).Pairwise List.Disjoint :=
  (List.nodup_flatten.mp ((componentsOf_perm next fresh).nodup_iff.mpr hfresh)).2

/-- A component has a vertex that leads it. -/
theorem exists_cons_of_mem_componentsOf (hc : c ∈ componentsOf next fresh) :
    ∃ s members, c = s :: members := by
  fun_induction componentsOf next fresh with
  | case1 => exact absurd hc List.not_mem_nil
  | case2 a rest ih =>
    rcases List.mem_cons.mp hc with rfl | hc
    · have ha : a ∈ a :: rest := List.mem_cons_self
      exact ⟨a, List.head?_eq_some_iff.mp (head?_explore next ha [])⟩
    · exact ih hc

/-- A search from the first vertex visits those that it leads. -/
theorem mem_explore_iff_foremost (hsealed : Sealed next (s :: rest)) :
    v ∈ (explore next (s :: rest) [s]).1 ↔
      v ∈ s :: rest ∧ foremost (Leads next) (s :: rest) v = some s := by
  rw [mem_explore_iff hsealed]
  exact and_congr_right fun _ => ⟨foremost_cons_of_related, related_of_foremost⟩

/-- For vertices that it does not lead the search does not matter. -/
theorem foremost_without_explore (hsealed : Sealed next (s :: rest))
    (hne : foremost (Leads next) (s :: rest) v ≠ some s) :
    foremost (Leads next) (without (s :: rest) (explore next (s :: rest) [s]).1) v =
      foremost (Leads next) (s :: rest) v := by
  refine foremost_without fun u hu huv => hne (foremost_cons_of_related ?_)
  exact ReflTransGen.trans ((mem_explore_iff hsealed).mp hu).2 huv

/-- **The component of a vertex** is led by the first vertex from which a path
leads to it. -/
theorem mem_iff_foremost (hfresh : fresh.Nodup) (hsealed : Sealed next fresh)
    (hc : c ∈ componentsOf next fresh) :
    v ∈ c ↔ v ∈ fresh ∧ foremost (Leads next) fresh v = c.head? := by
  fun_induction componentsOf next fresh with
  | case1 => exact absurd hc List.not_mem_nil
  | case2 a rest ih =>
    rw [explore_snd hfresh] at ih hc
    rcases List.mem_cons.mp hc with rfl | hc
    · rw [mem_explore_iff_foremost hsealed, head?_explore next List.mem_cons_self []]
    · have hother : c.head? ≠ some a := by
        obtain ⟨s, members, rfl⟩ := exists_cons_of_mem_componentsOf hc
        have hs := (mem_without.mp (mem_fresh_of_mem_component hc List.mem_cons_self)).2
        rintro he
        obtain rfl := Option.some.inj he
        exact hs (mem_explore_of_mem_stack List.mem_cons_self List.mem_cons_self)
      rw [ih (hfresh.filter _) (hsealed.without_explore [a]) hc, mem_without,
        mem_explore_iff_foremost hsealed]
      constructor
      · rintro ⟨⟨hv, hunvisited⟩, hlead⟩
        rw [foremost_without_explore hsealed fun he => hunvisited ⟨hv, he⟩] at hlead
        exact ⟨hv, hlead⟩
      · rintro ⟨hv, hlead⟩
        have hne : foremost (Leads next) (a :: rest) v ≠ some a := hlead ▸ hother
        exact ⟨⟨hv, fun h => hne h.2⟩, (foremost_without_explore hsealed hne).trans hlead⟩

/-- **The components come in the order of their leaders.** -/
theorem heads_sublist (hfresh : fresh.Nodup) :
    ((componentsOf next fresh).filterMap List.head?).Sublist fresh := by
  fun_induction componentsOf next fresh with
  | case1 => exact List.Sublist.refl _
  | case2 a rest ih =>
    rw [explore_snd hfresh] at ih ⊢
    have hvisited : a ∈ (explore next (a :: rest) [a]).1 :=
      mem_explore_of_mem_stack List.mem_cons_self List.mem_cons_self
    have hleft : without (a :: rest) (explore next (a :: rest) [a]).1 =
        without rest (explore next (a :: rest) [a]).1 := by
      simp [without, hvisited]
    rw [List.filterMap_cons_some (head?_explore next List.mem_cons_self [])]
    refine ((ih (hfresh.filter _)).trans ?_).cons_cons a
    rw [hleft]
    exact List.filter_sublist

/-- A leader stands before those of later components. -/
theorem pairwise_componentsOf (hfresh : fresh.Nodup) :
    (componentsOf next fresh).Pairwise fun c d =>
      ∀ u ∈ c.head?, ∀ v ∈ d.head?, fresh.idxOf u < fresh.idxOf v := by
  have hincreasing : fresh.Pairwise fun u v => fresh.idxOf u < fresh.idxOf v := by
    rw [List.pairwise_iff_getElem]
    intro i j hi hj hij
    rwa [hfresh.idxOf_getElem, hfresh.idxOf_getElem]
  exact List.pairwise_filterMap.mp (hincreasing.sublist (heads_sublist hfresh))

/-- **A path from the leader to a vertex stays in the component.** -/
theorem mem_component_of_leads (hfresh : fresh.Nodup) (hsealed : Sealed next fresh)
    (hc : c ∈ componentsOf next fresh) (hv : v ∈ c) (hs : c.head? = some s)
    (hsu : Leads next s u) (huv : Leads next u v) : u ∈ c := by
  obtain ⟨hv, hlead⟩ := (mem_iff_foremost hfresh hsealed hc).mp hv
  rw [hs] at hlead
  refine (mem_iff_foremost hfresh hsealed hc).mpr ⟨hsealed.mem_of_leads huv hv, ?_⟩
  rw [hs]
  exact foremost_of_between ReflTransGen.trans hlead hsu huv

/-! ## Along the arrows -/

/-- Arrows join the two vertices, whichever way they point. -/
def Joined (g : Graph κ) : κ → κ → Prop :=
  EqvGen g.Arrow

/-- A graph whose vertices are distinct and whose arrows join them. -/
structure Proper (g : Graph κ) : Prop where
  nodup : g.vertices.Nodup
  source_mem : ∀ {v w}, g.Arrow v w → v ∈ g.vertices
  target_mem : ∀ {v w}, g.Arrow v w → w ∈ g.vertices

theorem proper_between (keys : List κ) (links : List (κ × κ)) : (between keys links).Proper where
  nodup := nodup_distinct keys
  source_mem := fun h => mem_distinct.mpr (mem_arrows_between.mp h).2.1
  target_mem := fun h => mem_distinct.mpr (mem_arrows_between.mp h).2.2

variable {g : Graph κ}

theorem Proper.sealed (hg : g.Proper) (grouping : Grouping) :
    Sealed (g.neighbours grouping) g.vertices := by
  intro v w hnext _
  cases grouping with
  | forward => exact hg.source_mem (mem_targets.mp hnext)
  | undirected =>
    rcases List.mem_append.mp hnext with htarget | hsource
    · exact hg.source_mem (mem_targets.mp htarget)
    · exact hg.target_mem (mem_sources.mp hsource)

theorem targets_eq_arrow (g : Graph κ) : (fun v w => w ∈ g.targets v) = g.Arrow := by
  funext v w
  exact propext mem_targets

/-- Along outgoing arrows a path is one of the graph. -/
theorem leads_forward (g : Graph κ) : Leads (g.neighbours .forward) = g.Reaches :=
  congrArg ReflTransGen (targets_eq_arrow g)

/-- Following arrows in both directions joins what is connected. -/
theorem leads_undirected (g : Graph κ) : Leads (g.neighbours .undirected) = g.Joined := by
  have hnext : (fun v w => w ∈ g.neighbours .undirected v) = SymmGen g.Arrow := by
    funext v w
    refine propext ?_
    rw [neighbours, List.mem_append, mem_targets, mem_sources]
    exact Iff.rfl
  rw [Leads, hnext, EqvGen.reflTransGen_symmGen]
  rfl

end Flowchart.Graph
