import Flowchart.Proofs.Graph.Distinct
import Flowchart.Proofs.Graph.Grouping
import Flowchart.Proofs.Graph.Traversal

/-!
# Parallel arrows

A graph may hold an arrow several times. Whatever is found along it is found at
the first time, so all that counts of the vertices next to a given one is in
which order they come up first. A depth-first traversal passes over a vertex that
it has visited (`visitEach_distinct`), a breadth-first search discovers each vertex
once (`discovered_congr`), and no arrow enters a vertex if none does at all. Two
graphs that are told apart by repeats only (`ParallelTo`) therefore have the same
components with the same ranks (`ParallelTo.components_eq`, `ParallelTo.ranked_eq`).
-/

namespace Flowchart.Graph

variable {κ : Type} [DecidableEq κ] {next next' : κ → List κ} {fresh vs ws c : List κ}
variable {g g' : Graph κ} {u v w : κ}

/-! ## Traversals -/

/-- Who has been visited is not fresh any more. -/
theorem notMem_left_visit (next : κ → List κ) (hfresh : fresh.Nodup) (v : κ) :
    v ∉ (visit next fresh v).left := by
  by_cases hv : v ∈ fresh
  · rw [visit_of_mem next hv]
    exact fun hleft => hfresh.not_mem_erase
      ((visitEach next (fresh.erase v) (next v)).left_sublist.subset hleft)
  · rw [visit_of_notMem next hv]
    exact hv

/-- **A vertex that comes up again is passed over.** -/
theorem visitEach_distinct (next : κ → List κ) (hfresh : fresh.Nodup) (vs : List κ) :
    visitEach next fresh (distinct vs) = visitEach next fresh vs := by
  induction vs generalizing fresh with
  | nil => rfl
  | cons v vs ih =>
    have hleft : ∀ w ∈ (visit next fresh v).left, decide (w ≠ v) = true := by
      intro w hw
      refine decide_eq_true ?_
      rintro rfl
      exact notMem_left_visit next hfresh w hw
    rw [distinct, visitEach_cons, visitEach_cons, visitEach_filter next hleft,
      ih (hfresh.sublist (visit next fresh v).left_sublist)]

/-- So it counts in which order vertices come up first. -/
theorem visitEach_eq_of_distinct_eq (next : κ → List κ) (hfresh : fresh.Nodup)
    (h : distinct vs = distinct ws) : visitEach next fresh vs = visitEach next fresh ws := by
  rw [← visitEach_distinct next hfresh vs, h, visitEach_distinct next hfresh ws]

section Congruence

variable (hnext : ∀ v, distinct (next' v) = distinct (next v))

include hnext

/-- **A traversal does not notice repeated neighbours.** -/
theorem visitEach_congr (hfresh : fresh.Nodup) (stack : List κ) :
    visitEach next' fresh stack = visitEach next fresh stack := by
  -- along the search that keeps a stack, as each turn of it is one call
  fun_induction explore next fresh stack with
  | case1 => rw [visitEach_nil, visitEach_nil]
  | case2 fresh v stack hv fresh' visited left heq ih =>
    have hfresh' : fresh'.Nodup := hfresh.erase v
    have hrest := ih hfresh'
    rw [visitEach_pushed, visitEach_pushed] at hrest
    rw [visitEach_cons_of_mem next' hv, visitEach_cons_of_mem next hv, ← hrest, visitEach_append,
      visitEach_append, visitEach_eq_of_distinct_eq next' hfresh' (hnext v)]
  | case3 fresh v stack hv ih =>
    rw [visitEach_cons_of_notMem next' hv, visitEach_cons_of_notMem next hv, ih hfresh]

theorem componentsOf_congr (hfresh : fresh.Nodup) :
    componentsOf next' fresh = componentsOf next fresh := by
  fun_induction componentsOf next fresh with
  | case1 => rw [componentsOf]
  | case2 v rest ih =>
    have hexplore : explore next' (v :: rest) [v] = explore next (v :: rest) [v] := by
      rw [explore_eq_visitEach, explore_eq_visitEach, visitEach_congr hnext hfresh]
    rw [componentsOf, hexplore, ih (hfresh.sublist (explore_sublist ..))]

end Congruence

/-! ## Ranks -/

/-- A vertex discovers its neighbours at their first time. -/
theorem discovered_congr (h : distinct (next' v) = distinct (next v)) (fresh : List κ) :
    discovered next' fresh v = discovered next fresh v := by
  rw [discovered, discovered, distinct_filter, distinct_filter, h]

/-- A breadth-first search only looks at the vertices that it may reach. -/
theorem spread_congr {queue : List (κ × Nat)}
    (hqueue : ∀ e ∈ queue, distinct (next' e.1) = distinct (next e.1))
    (hfresh : ∀ v ∈ fresh, distinct (next' v) = distinct (next v)) :
    spread next' fresh queue = spread next fresh queue := by
  fun_induction spread next fresh queue with
  | case1 => rw [spread]
  | case2 fresh v n queue found ih =>
    have hfound : discovered next' fresh v = found :=
      discovered_congr (hqueue _ List.mem_cons_self) fresh
    rw [spread]
    simp only [hfound]
    rw [ih]
    · intro e he
      rcases List.mem_append.mp he with hold | hnew
      · exact hqueue e (List.mem_cons_of_mem _ hold)
      · obtain ⟨w, hw, rfl⟩ := List.mem_map.mp hnew
        exact hfresh w (mem_discovered.mp hw).2
    · exact fun w hw => hfresh w (mem_without.mp hw).1

/-- **The ranks of a component** are told by its roots and by the arrows that leave
its vertices. -/
theorem ranked_congr (hroots : g'.roots c = g.roots c)
    (htargets : ∀ v ∈ c, distinct (g'.targets v) = distinct (g.targets v)) :
    g'.ranked c = g.ranked c := by
  have htable : g'.rankTable c = g.rankTable c := by
    rw [rankTable, rankTable, hroots]
    refine spread_congr ?_ fun v hv => htargets v (mem_without.mp hv).1
    intro e he
    obtain ⟨v, hv, rfl⟩ := List.mem_map.mp he
    exact htargets v (roots_subset g c hv)
  rw [ranked, ranked, htable]

/-! ## Graphs that differ in repeats -/

/-- The graphs hold the same arrows, in the order in which each comes first. -/
structure ParallelTo (g' g : Graph κ) : Prop where
  vertices_eq : g'.vertices = g.vertices
  arrows_eq : distinct g'.arrows = distinct g.arrows

namespace ParallelTo

theorem arrow_iff (h : g'.ParallelTo g) : g'.Arrow u v ↔ g.Arrow u v := by
  rw [Arrow, ← mem_distinct, h.arrows_eq, mem_distinct]
  rfl

/-- What is read off the arrows with a common end is read off their first times. -/
theorem distinct_ends (h : g'.ParallelTo g) (p : κ × κ → Bool) {f : κ × κ → κ}
    (hf : ∀ a b, p a → p b → f a = f b → a = b) :
    distinct ((g'.arrows.filter p).map f) = distinct ((g.arrows.filter p).map f) := by
  have hends : ∀ arrows : List (κ × κ), distinct ((arrows.filter p).map f) =
      ((distinct arrows).filter p).map f := by
    intro arrows
    rw [← distinct_filter]
    exact distinct_map fun a ha b hb =>
      hf a b (List.mem_filter.mp ha).2 (List.mem_filter.mp hb).2
  rw [hends, hends, h.arrows_eq]

theorem targets_eq (h : g'.ParallelTo g) (v : κ) :
    distinct (g'.targets v) = distinct (g.targets v) :=
  h.distinct_ends _ fun _ _ ha hb he =>
    Prod.ext ((of_decide_eq_true ha).trans (of_decide_eq_true hb).symm) he

theorem sources_eq (h : g'.ParallelTo g) (v : κ) :
    distinct (g'.sources v) = distinct (g.sources v) :=
  h.distinct_ends _ fun _ _ ha hb he =>
    Prod.ext he ((of_decide_eq_true ha).trans (of_decide_eq_true hb).symm)

theorem neighbours_eq (h : g'.ParallelTo g) (grouping : Grouping) (v : κ) :
    distinct (g'.neighbours grouping v) = distinct (g.neighbours grouping v) := by
  cases grouping with
  | forward => exact h.targets_eq v
  | undirected =>
    have hknown : ∀ w, w ∉ g'.targets v ↔ w ∉ g.targets v := fun w => by
      rw [← mem_distinct, h.targets_eq, mem_distinct]
    rw [neighbours, neighbours, distinct_append, distinct_append, h.targets_eq, h.sources_eq]
    simp only [hknown]

theorem roots_eq (h : g'.ParallelTo g) (c : List κ) : g'.roots c = g.roots c := by
  have hempty : ∀ v, (g'.sources v).isEmpty = (g.sources v).isEmpty := fun v => by
    rw [Bool.eq_iff_iff, isEmpty_sources_iff, isEmpty_sources_iff]
    exact forall_congr' fun u => not_congr h.arrow_iff
  rw [roots, roots]
  simp only [hempty]

/-- **Parallel arrows do not change the components.** -/
theorem components_eq (h : g'.ParallelTo g) (hg : g.Proper) (grouping : Grouping) :
    g'.components grouping = g.components grouping := by
  rw [components, components, h.vertices_eq]
  exact componentsOf_congr (h.neighbours_eq grouping) hg.nodup

/-- **Parallel arrows do not change the ranks.** -/
theorem ranked_eq (h : g'.ParallelTo g) (c : List κ) : g'.ranked c = g.ranked c :=
  ranked_congr (h.roots_eq c) fun v _ => h.targets_eq v

end ParallelTo

end Flowchart.Graph
