import Flowchart.Proofs.Graph.Parallel

/-!
# Graphs that grow

A graph grows by vertices that come after the old ones and by arrows that leave
the new ones, wherever they lead (`GrownBy`). Along outgoing arrows the old part
does not notice. A search among the old vertices never meets a new one
(`explore_append`), so the old components come first and are what they were
(`componentsOf_append`), and with the same root each also keeps its ranks
(`GrownBy.ranked_eq`). That arrows may come to point at the old roots makes no
difference.
-/

namespace Flowchart.Graph

variable {κ : Type} {next next' : κ → List κ} {fresh stack new : List κ}
variable {g g' : Graph κ} {c : List κ} {v w : κ}

/-! ## Searches among the old vertices -/

/-- From the given vertices both searches go on in the same way, and to nothing
new. -/
structure AgreesOn (next next' : κ → List κ) (new keys : List κ) : Prop where
  next_eq : ∀ v ∈ keys, next' v = next v
  old : ∀ v ∈ keys, ∀ w ∈ next v, w ∉ new

theorem AgreesOn.mono {keys part : List κ} (h : AgreesOn next next' new keys)
    (hsubset : part ⊆ keys) : AgreesOn next next' new part :=
  ⟨fun v hv => h.next_eq v (hsubset hv), fun v hv => h.old v (hsubset hv)⟩

variable [DecidableEq κ]

/-- **A search among the old vertices leaves the new ones fresh.** -/
theorem explore_append (hagree : AgreesOn next next' new fresh) (hstack : ∀ v ∈ stack, v ∉ new) :
    explore next' (fresh ++ new) stack =
      ((explore next fresh stack).1, (explore next fresh stack).2 ++ new) := by
  fun_induction explore next fresh stack with
  | case1 fresh => rw [explore]
  | case2 fresh v stack hv fresh' visited left heq ih =>
    have herase : (fresh ++ new).erase v = fresh' ++ new := List.erase_append_left new hv
    -- what is pushed onto the stack is old, so it is fresh now if it was before
    have hpush : (next' v).filter (· ∈ fresh' ++ new) = (next v).filter (· ∈ fresh') := by
      rw [hagree.next_eq v hv]
      refine List.filter_congr fun w hw => ?_
      simp [hagree.old v hv w hw]
    have hstack' : ∀ w ∈ (next v).filter (· ∈ fresh') ++ stack, w ∉ new := by
      intro w hw
      rcases List.mem_append.mp hw with hpushed | hold
      · exact hagree.old v hv w (List.mem_filter.mp hpushed).1
      · exact hstack w (List.mem_cons_of_mem v hold)
    have hrest := ih (hagree.mono List.erase_subset) hstack'
    rw [heq] at hrest
    rw [explore, if_pos (List.mem_append_left new hv)]
    simp only [herase, hpush, hrest]
  | case3 fresh v stack hv ih =>
    have hnot : v ∉ fresh ++ new := fun h =>
      (List.mem_append.mp h).elim hv (hstack v List.mem_cons_self)
    rw [explore, if_neg hnot]
    exact ih hagree fun w hw => hstack w (List.mem_cons_of_mem v hw)

/-- **The old components come first** and are what they were. -/
theorem componentsOf_append (hagree : AgreesOn next next' new fresh)
    (hdisjoint : ∀ v ∈ fresh, v ∉ new) :
    componentsOf next' (fresh ++ new) = componentsOf next fresh ++ componentsOf next' new := by
  fun_induction componentsOf next fresh with
  | case1 => rfl
  | case2 v rest ih =>
    have hleft : (explore next (v :: rest) [v]).2 ⊆ v :: rest :=
      (explore_sublist next (v :: rest) [v]).subset
    have hstack : ∀ w ∈ [v], w ∉ new := fun w hw =>
      hdisjoint w (List.mem_cons.mpr (Or.inl (List.mem_singleton.mp hw)))
    rw [List.cons_append, componentsOf, ← List.cons_append, explore_append hagree hstack]
    simp only [List.cons_append]
    rw [ih (hagree.mono hleft) fun w hw => hdisjoint w (hleft hw)]

/-! ## Grown graphs -/

/-- The graph has grown by vertices that come after the old ones. No other
arrow leaves an old vertex than before. -/
structure GrownBy (g g' : Graph κ) (new : List κ) : Prop where
  vertices_eq : g'.vertices = g.vertices ++ new
  targets_eq : ∀ v ∈ g.vertices, g'.targets v = g.targets v

namespace GrownBy

theorem notMem_new (h : g.GrownBy g' new) (hg' : g'.Proper) (hv : v ∈ g.vertices) : v ∉ new := by
  have hnodup := hg'.nodup
  rw [h.vertices_eq] at hnodup
  exact List.disjoint_of_nodup_append hnodup hv

/-- **The components of the old graph come first.** -/
theorem components_eq (h : g.GrownBy g' new) (hg : g.Proper) (hg' : g'.Proper) :
    ∃ cs, g'.components .forward = g.components .forward ++ cs := by
  have hagree : AgreesOn (g.neighbours .forward) (g'.neighbours .forward) new g.vertices :=
    ⟨h.targets_eq, fun v _ w hw => h.notMem_new hg' (hg.target_mem (mem_targets.mp hw))⟩
  refine ⟨componentsOf (g'.neighbours .forward) new, ?_⟩
  rw [components, h.vertices_eq]
  exact componentsOf_append hagree fun v hv => h.notMem_new hg' hv

/-- **Old components keep their ranks.** -/
theorem ranked_eq (h : g.GrownBy g' new) (hg : g.Proper) (hg' : g'.Proper)
    (hc : c ∈ g.components .forward) : g'.ranked c = g.ranked c := by
  have hc' : c ∈ g'.components .forward := by
    obtain ⟨cs, hcs⟩ := h.components_eq hg hg'
    rw [hcs]
    exact List.mem_append_left cs hc
  have hroots : g'.roots c = g.roots c := by
    obtain ⟨s, members, rfl⟩ := exists_cons_of_mem_componentsOf hc
    rw [roots_forward hg hc, roots_forward hg' hc']
  exact ranked_congr hroots fun v hv =>
    congrArg distinct (h.targets_eq v (mem_fresh_of_mem_component hc hv))

end GrownBy

end Flowchart.Graph
