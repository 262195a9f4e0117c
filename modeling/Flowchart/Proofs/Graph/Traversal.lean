import Flowchart.Proofs.Graph.Component

/-!
# The recursive traversal

Depth-first search as it is told without a stack: to visit a vertex is to mark
it, and then to visit its neighbours one after the other, passing over those that
are marked (`visit`, `visitEach`). The search that keeps a stack is this
traversal (`explore_eq_visitEach`). What lies on its stack is what the traversal
has still to visit: putting the neighbours of a vertex on top of it is to visit
them ahead of the rest (`visitEach_cons_of_mem`), and those that are not pushed,
since they are marked, would have been passed over (`visitEach_pushed`).

The components are therefore the tours from the vertices that are still fresh
when their turn comes (`components_between`).
-/

namespace Flowchart.Graph

variable {κ : Type} [DecidableEq κ] {next : κ → List κ} {fresh vs ws : List κ} {v : κ}

/-! ## Tours -/

/-- What a traversal has visited, in its order, and what it has left fresh. -/
@[ext]
structure Tour (fresh : List κ) where
  visited : List κ
  left : List κ
  left_sublist : left.Sublist fresh

namespace Tour

/-- The tour that visits nothing. -/
def stay (fresh : List κ) : Tour fresh := ⟨[], fresh, List.Sublist.refl fresh⟩

/-- The tour that marks a vertex and goes on from there. -/
def enter (v : κ) (below : Tour (fresh.erase v)) : Tour fresh :=
  ⟨v :: below.visited, below.left, below.left_sublist.trans List.erase_sublist⟩

/-- One tour, and then another through what the first has left fresh. -/
def andThen (first : Tour fresh) (others : Tour first.left) : Tour fresh :=
  ⟨first.visited ++ others.visited, others.left, others.left_sublist.trans first.left_sublist⟩

omit [DecidableEq κ] in
theorem stay_andThen (others : Tour fresh) : (stay fresh).andThen others = others := rfl

omit [DecidableEq κ] in
theorem andThen_stay (first : Tour fresh) : first.andThen (stay first.left) = first :=
  Tour.ext (List.append_nil _) rfl

omit [DecidableEq κ] in
theorem andThen_assoc (first : Tour fresh) (second : Tour first.left) (third : Tour second.left) :
    (first.andThen second).andThen third = first.andThen (second.andThen third) :=
  Tour.ext (List.append_assoc ..) rfl

omit [DecidableEq κ] in
/-- A tour may leave everything fresh, so what follows has to be less. -/
theorem lex_left (t : Tour fresh) {m n : Nat} (h : m < n) :
    Prod.Lex (· < ·) (· < ·) (t.left.length, m) (fresh.length, n) := by
  rcases Nat.lt_or_eq_of_le t.left_sublist.length_le with hlt | heq
  · exact Prod.Lex.left _ _ hlt
  · rw [heq]
    exact Prod.Lex.right _ h

end Tour

mutual

/-- Visits a vertex, if it is fresh, and what can be visited from it. -/
def visit (next : κ → List κ) (fresh : List κ) (v : κ) : Tour fresh :=
  if v ∈ fresh then .enter v (visitEach next (fresh.erase v) (next v)) else .stay fresh
termination_by (fresh.length, 0)
decreasing_by
  have hpos := List.length_pos_of_mem ‹v ∈ fresh›
  refine Prod.Lex.left _ _ ?_
  rw [List.length_erase_of_mem ‹v ∈ fresh›]
  omega

/-- Visits some vertices one after the other. -/
def visitEach (next : κ → List κ) (fresh : List κ) : List κ → Tour fresh
  | [] => .stay fresh
  | v :: rest => (visit next fresh v).andThen (visitEach next (visit next fresh v).left rest)
termination_by vs => (fresh.length, vs.length + 1)
decreasing_by
  · exact Prod.Lex.right _ (Nat.succ_pos _)
  · exact Tour.lex_left _ (Nat.lt_succ_self _)

end

/-- One tour from each of some vertices that is fresh when its turn comes. -/
def tours (next : κ → List κ) (fresh : List κ) : List κ → List (List κ)
  | [] => []
  | v :: rest =>
    if v ∈ fresh then (visit next fresh v).visited :: tours next (visit next fresh v).left rest
    else tours next fresh rest

theorem visit_of_mem (next : κ → List κ) (hv : v ∈ fresh) :
    visit next fresh v = .enter v (visitEach next (fresh.erase v) (next v)) := by
  rw [visit, if_pos hv]

theorem visit_of_notMem (next : κ → List κ) (hv : v ∉ fresh) :
    visit next fresh v = .stay fresh := by
  rw [visit, if_neg hv]

theorem visitEach_nil (next : κ → List κ) (fresh : List κ) :
    visitEach next fresh [] = .stay fresh := by
  rw [visitEach]

theorem visitEach_cons (next : κ → List κ) (fresh : List κ) (v : κ) (vs : List κ) :
    visitEach next fresh (v :: vs) =
      (visit next fresh v).andThen (visitEach next (visit next fresh v).left vs) := by
  rw [visitEach]

/-- A marked vertex is passed over. -/
theorem visitEach_cons_of_notMem (next : κ → List κ) (hv : v ∉ fresh) (vs : List κ) :
    visitEach next fresh (v :: vs) = visitEach next fresh vs := by
  rw [visitEach_cons, visit_of_notMem next hv]
  exact Tour.stay_andThen _

theorem visitEach_singleton (next : κ → List κ) (fresh : List κ) (v : κ) :
    visitEach next fresh [v] = visit next fresh v := by
  rw [visitEach_cons, visitEach_nil, Tour.andThen_stay]

/-- **What is to be visited later is left for later.** -/
theorem visitEach_append (next : κ → List κ) (fresh vs ws : List κ) :
    visitEach next fresh (vs ++ ws) =
      (visitEach next fresh vs).andThen (visitEach next (visitEach next fresh vs).left ws) := by
  induction vs generalizing fresh with
  | nil =>
    rw [List.nil_append, visitEach_nil]
    exact (Tour.stay_andThen _).symm
  | cons v vs ih =>
    rw [List.cons_append, visitEach_cons, ih, visitEach_cons]
    exact (Tour.andThen_assoc ..).symm

/-- **The stack.** What follows from a vertex is visited ahead of what else there
is to visit. -/
theorem visitEach_cons_of_mem (next : κ → List κ) (hv : v ∈ fresh) (vs : List κ) :
    visitEach next fresh (v :: vs) = .enter v (visitEach next (fresh.erase v) (next v ++ vs)) := by
  rw [visitEach_cons, visit_of_mem next hv, visitEach_append]
  rfl

/-- **Marked vertices may be left out** beforehand. -/
theorem visitEach_filter (next : κ → List κ) {p : κ → Bool} (hp : ∀ v ∈ fresh, p v)
    (vs : List κ) : visitEach next fresh (vs.filter p) = visitEach next fresh vs := by
  induction vs generalizing fresh with
  | nil => rfl
  | cons v vs ih =>
    by_cases hv : p v
    · have hleft := (visit next fresh v).left_sublist.subset
      rw [List.filter_cons_of_pos hv, visitEach_cons, visitEach_cons,
        ih fun w hw => hp w (hleft hw)]
    · have hmarked : v ∉ fresh := fun hfresh => hv (hp v hfresh)
      rw [List.filter_cons_of_neg hv, visitEach_cons_of_notMem next hmarked, ih hp]

/-- The neighbours that are pushed lead as far as all of them. -/
theorem visitEach_pushed (next : κ → List κ) (fresh vs ws : List κ) :
    visitEach next fresh (vs.filter (· ∈ fresh) ++ ws) = visitEach next fresh (vs ++ ws) := by
  rw [visitEach_append, visitEach_append, visitEach_filter next fun v hv => decide_eq_true hv]

/-! ## The search that keeps a stack -/

/-- **The search that keeps a stack is the recursive traversal** of what lies on
it. -/
theorem explore_eq_visitEach (next : κ → List κ) (fresh stack : List κ) :
    explore next fresh stack =
      ((visitEach next fresh stack).visited, (visitEach next fresh stack).left) := by
  fun_induction explore next fresh stack with
  | case1 fresh =>
    rw [visitEach_nil]
    rfl
  | case2 fresh v stack hv fresh' visited left heq ih =>
    rw [heq, visitEach_pushed] at ih
    obtain ⟨rfl, rfl⟩ := Prod.mk.inj ih
    rw [visitEach_cons_of_mem next hv]
    rfl
  | case3 fresh v stack hv ih => rw [visitEach_cons_of_notMem next hv, ih]

/-- A search from a single vertex visits it. -/
theorem explore_singleton (next : κ → List κ) (fresh : List κ) (v : κ) :
    explore next fresh [v] = ((visit next fresh v).visited, (visit next fresh v).left) := by
  rw [explore_eq_visitEach, visitEach_singleton]

/-- **Searching on from the first fresh vertex is going through all of them** and
starting from those that are fresh. -/
theorem componentsOf_eq_tours (next : κ → List κ) {starts : List κ} (hstarts : starts.Nodup)
    (hfresh : fresh.Sublist starts) : componentsOf next fresh = tours next fresh starts := by
  induction starts generalizing fresh with
  | nil =>
    obtain rfl := List.sublist_nil.mp hfresh
    rw [componentsOf]
    rfl
  | cons v starts ih =>
    obtain ⟨hv, hstarts⟩ := List.nodup_cons.mp hstarts
    rw [tours]
    cases hfresh with
    | cons _ hfresh => rw [if_neg fun h => hv (hfresh.subset h), ih hstarts hfresh]
    | cons_cons _ hrest =>
      rename_i rest
      have hleft : (visit next (v :: rest) v).left.Sublist starts := by
        rw [visit_of_mem next List.mem_cons_self]
        refine (visitEach next ((v :: rest).erase v) (next v)).left_sublist.trans ?_
        rwa [List.erase_cons_head]
      rw [if_pos List.mem_cons_self, componentsOf, explore_singleton, ih hstarts hleft]

/-- **A component begins with the first of its vertices.** -/
theorem idxOf_lt_of_mem_component {s : κ} {members : List κ} (hfresh : fresh.Nodup)
    (hsealed : Sealed next fresh) (hc : s :: members ∈ componentsOf next fresh)
    (hv : v ∈ members) : fresh.idxOf s < fresh.idxOf v := by
  obtain ⟨-, hlead⟩ :=
    (mem_iff_foremost hfresh hsealed hc).mp (List.mem_cons_of_mem s hv)
  obtain ⟨-, front, back, rfl, hfront⟩ := foremost_eq_some_iff.mp hlead
  have hs : s ∉ front := fun hs =>
    List.disjoint_of_nodup_append hfresh hs List.mem_cons_self
  -- a vertex leads itself, so it does not stand before its leader
  have hv' : v ∉ front := fun hv => hfront v hv Relation.ReflTransGen.refl
  have hne : s ≠ v := by
    rintro rfl
    exact (List.nodup_cons.mp (nodup_component hfresh hc)).1 hv
  rw [List.idxOf_append_of_notMem hs, List.idxOf_append_of_notMem hv', List.idxOf_cons_self,
    List.idxOf_cons_ne _ hne]
  omega

/-- **The components of a graph are its tours**: each vertex that is fresh when its
turn comes is visited with all that follows from it. They part the vertices, and
each begins with the first of its own. -/
theorem components_between (keys : List κ) (links : List (κ × κ)) (grouping : Grouping) :
    let g := between keys links
    g.components grouping = tours (g.neighbours grouping) g.vertices g.vertices ∧
      (g.components grouping).flatten.Perm g.vertices ∧
      (g.components grouping).flatten.Nodup ∧
      ∀ c ∈ g.components grouping, ∃ s members, c = s :: members ∧
        ∀ v ∈ members, g.vertices.idxOf s < g.vertices.idxOf v := by
  intro g
  have hg : g.Proper := proper_between keys links
  have hperm : (g.components grouping).flatten.Perm g.vertices :=
    componentsOf_perm (g.neighbours grouping) g.vertices
  refine ⟨componentsOf_eq_tours _ hg.nodup (List.Sublist.refl _), hperm,
    hperm.nodup_iff.mpr hg.nodup, fun c hc => ?_⟩
  obtain ⟨s, members, rfl⟩ := exists_cons_of_mem_componentsOf hc
  exact ⟨s, members, rfl, fun v hv =>
    idxOf_lt_of_mem_component hg.nodup (hg.sealed grouping) hc hv⟩

/-- A vertex that repeats, parallel arrows, a cycle, a loop and an arrow from
nowhere. -/
def knotted : Graph Nat :=
  between [0, 1, 2, 3, 1, 4]
    [(0, 1), (0, 2), (0, 1), (1, 3), (3, 0), (2, 2), (2, 3), (4, 2), (9, 4)]

theorem components_between_knotted :
    knotted.components .forward = [[0, 1, 3, 2], [4]] ∧
    tours (knotted.neighbours .forward) knotted.vertices knotted.vertices =
      [[0, 1, 3, 2], [4]] ∧
    tours (knotted.neighbours .undirected) knotted.vertices knotted.vertices =
      [[0, 1, 3, 2, 4]] ∧
    [0, 1, 3, 2] ∈ knotted.components .forward ∧
    ∃ s members, [0, 1, 3, 2] = s :: members ∧
      ∀ v ∈ members, knotted.vertices.idxOf s < knotted.vertices.idxOf v := by
  have hvertices : knotted.vertices = [0, 1, 2, 3, 4] := by decide
  have harrows : knotted.arrows =
      [(0, 1), (0, 2), (0, 1), (1, 3), (3, 0), (2, 2), (2, 3), (4, 2)] := by decide
  have hforward : knotted.components .forward = [[0, 1, 3, 2], [4]] := by
    simp [components, componentsOf, explore, neighbours, targets, hvertices, harrows]
  have hundirected : knotted.components .undirected = [[0, 1, 3, 2, 4]] := by
    simp [components, componentsOf, explore, neighbours, targets, sources, hvertices, harrows]
  have hmem : [0, 1, 3, 2] ∈ knotted.components .forward := by
    rw [hforward]
    exact List.mem_cons_self
  obtain ⟨htours, -, -, hfirst⟩ := components_between [0, 1, 2, 3, 1, 4]
    [(0, 1), (0, 2), (0, 1), (1, 3), (3, 0), (2, 2), (2, 3), (4, 2), (9, 4)] .forward
  obtain ⟨htours', -⟩ := components_between [0, 1, 2, 3, 1, 4]
    [(0, 1), (0, 2), (0, 1), (1, 3), (3, 0), (2, 2), (2, 3), (4, 2), (9, 4)] .undirected
  exact ⟨hforward, htours.symm.trans hforward, htours'.symm.trans hundirected, hmem,
    hfirst _ hmem⟩

end Flowchart.Graph
