import Flowchart.Graph.Component
import Flowchart.Graph.Rank
import Mathlib.Data.List.Nodup
import Mathlib.Logic.Relation

/-!
# What a depth-first search visits

A search parts the fresh vertices into those it visits and those that stay
fresh (`explore_perm`). It visits what is on the stack, and with a vertex all
its fresh neighbours (`mem_explore_of_mem_stack`, `mem_explore_of_next`), and
nothing that no path leads to (`exists_leads_of_mem_explore`). A search from one
vertex therefore visits whatever is fresh and can be reached from it, as long
as no path leads from an earlier search back to a fresh vertex
(`mem_explore_iff`); and the search itself sees to it that this stays so
(`Sealed.without_explore`).
-/

namespace Flowchart.Graph

open Relation

variable {κ : Type} {next : κ → List κ} {fresh stack : List κ} {u v w : κ}

/-- A path from neighbour to neighbour leads from one vertex to the other. -/
def Leads (next : κ → List κ) : κ → κ → Prop :=
  ReflTransGen fun v w => w ∈ next v

/-- Only fresh vertices have fresh neighbours. -/
def Sealed (next : κ → List κ) (fresh : List κ) : Prop :=
  ∀ v w, w ∈ next v → w ∈ fresh → v ∈ fresh

/-- Then a path that ends at a fresh vertex is fresh all the way. -/
theorem Sealed.mem_of_leads (h : Sealed next fresh) (hp : Leads next v w) (hw : w ∈ fresh) :
    v ∈ fresh := by
  induction hp using ReflTransGen.head_induction_on with
  | refl => exact hw
  | head hnext _ ih => exact h _ _ hnext ih

variable [DecidableEq κ]

theorem mem_without {keys gone : List κ} : v ∈ without keys gone ↔ v ∈ keys ∧ v ∉ gone := by
  simp [without]

/-- **Every fresh vertex is visited or stays fresh**, and none is both. -/
theorem explore_perm (next : κ → List κ) (fresh stack : List κ) :
    ((explore next fresh stack).1 ++ (explore next fresh stack).2).Perm fresh := by
  fun_induction explore next fresh stack with
  | case1 => exact List.Perm.refl _
  | case2 fresh v stack hv fresh' visited left heq ih =>
    rw [heq] at ih
    exact (ih.cons v).trans (List.perm_cons_erase hv).symm
  | case3 fresh v stack _ ih => exact ih

theorem mem_fresh_of_mem_explore (h : v ∈ (explore next fresh stack).1) : v ∈ fresh :=
  (explore_perm next fresh stack).subset (List.mem_append_left _ h)

/-- What stays fresh is what is not visited, in the same order. -/
theorem explore_snd (hfresh : fresh.Nodup) :
    (explore next fresh stack).2 = without fresh (explore next fresh stack).1 := by
  fun_induction explore next fresh stack with
  | case1 fresh => simp [without]
  | case2 fresh v stack hv fresh' visited left heq ih =>
    rw [heq] at ih
    have hleft : left = without fresh' visited := ih (hfresh.erase v)
    have hfresh' : fresh' = fresh.filter (· != v) := hfresh.erase_eq_filter v
    show left = without fresh (v :: visited)
    rw [hleft, without, without, hfresh', List.filter_filter]
    refine List.filter_congr fun w _ => ?_
    by_cases hwv : w = v <;> simp [hwv]
  | case3 fresh v stack _ ih => exact ih hfresh

/-- A fresh vertex on the stack is visited. -/
theorem mem_explore_of_mem_stack (hv : v ∈ stack) (hfresh : v ∈ fresh) :
    v ∈ (explore next fresh stack).1 := by
  fun_induction explore next fresh stack with
  | case1 => exact absurd hv List.not_mem_nil
  | case2 fresh u stack hu fresh' visited left heq ih =>
    rw [heq] at ih
    by_cases huv : v = u
    · exact List.mem_cons.mpr (Or.inl huv)
    · have hstack : v ∈ stack := (List.mem_cons.mp hv).resolve_left huv
      exact List.mem_cons_of_mem u
        (ih (List.mem_append_right _ hstack) ((List.mem_erase_of_ne huv).mpr hfresh))
  | case3 fresh u stack hu ih =>
    have hne : v ≠ u := fun he => hu (he ▸ hfresh)
    exact ih ((List.mem_cons.mp hv).resolve_left hne) hfresh

/-- With a vertex its fresh neighbours are visited. -/
theorem mem_explore_of_next (hv : v ∈ (explore next fresh stack).1) (hnext : w ∈ next v)
    (hw : w ∈ fresh) : w ∈ (explore next fresh stack).1 := by
  fun_induction explore next fresh stack with
  | case1 => exact absurd hv List.not_mem_nil
  | case2 fresh u stack hu fresh' visited left heq ih =>
    rw [heq] at ih
    by_cases hwu : w = u
    · exact List.mem_cons.mpr (Or.inl hwu)
    · have hw' : w ∈ fresh' := (List.mem_erase_of_ne hwu).mpr hw
      refine List.mem_cons_of_mem u ?_
      rcases List.mem_cons.mp hv with rfl | hvisited
      · -- the neighbours of the vertex just visited go onto the stack
        have hstack : w ∈ (next v).filter (· ∈ fresh') ++ stack :=
          List.mem_append_left _ (List.mem_filter.mpr ⟨hnext, decide_eq_true hw'⟩)
        have hmem : w ∈ (explore next fresh' ((next v).filter (· ∈ fresh') ++ stack)).1 :=
          mem_explore_of_mem_stack hstack hw'
        rwa [heq] at hmem
      · exact ih hvisited hw'
  | case3 fresh u stack _ ih => exact ih hv hw

/-- To a vertex that is visited a path leads from the stack. -/
theorem exists_leads_of_mem_explore (h : w ∈ (explore next fresh stack).1) :
    ∃ v ∈ stack, Leads next v w := by
  fun_induction explore next fresh stack with
  | case1 => exact absurd h List.not_mem_nil
  | case2 fresh u stack _ fresh' visited left heq ih =>
    rw [heq] at ih
    rcases List.mem_cons.mp h with rfl | hvisited
    · exact ⟨w, List.mem_cons_self, ReflTransGen.refl⟩
    · obtain ⟨v, hv, hp⟩ := ih hvisited
      rcases List.mem_append.mp hv with hnew | hold
      · have hnext : v ∈ next u := (List.mem_filter.mp hnew).1
        exact ⟨u, List.mem_cons_self, ReflTransGen.head hnext hp⟩
      · exact ⟨v, List.mem_cons_of_mem u hold, hp⟩
  | case3 fresh u stack _ ih =>
    obtain ⟨v, hv, hp⟩ := ih h
    exact ⟨v, List.mem_cons_of_mem u hv, hp⟩

/-- **What a search from one vertex visits**: the fresh vertices that can be
reached from it. -/
theorem mem_explore_iff (hsealed : Sealed next fresh) :
    w ∈ (explore next fresh [v]).1 ↔ w ∈ fresh ∧ Leads next v w := by
  constructor
  · intro h
    obtain ⟨u, hu, hp⟩ := exists_leads_of_mem_explore h
    rw [List.mem_singleton] at hu
    exact ⟨mem_fresh_of_mem_explore h, hu ▸ hp⟩
  · rintro ⟨hw, hp⟩
    -- along the path every vertex is fresh, so each is visited with the one before
    induction hp with
    | refl => exact mem_explore_of_mem_stack (List.mem_singleton_self v) hw
    | tail _ hnext ih => exact mem_explore_of_next (ih (hsealed _ _ hnext hw)) hnext hw

/-- After a search still only fresh vertices have fresh neighbours. -/
theorem Sealed.without_explore (h : Sealed next fresh) (stack : List κ) :
    Sealed next (without fresh (explore next fresh stack).1) := by
  intro v w hnext hw
  obtain ⟨hfresh, hunvisited⟩ := mem_without.mp hw
  exact mem_without.mpr
    ⟨h v w hnext hfresh, fun hv => hunvisited (mem_explore_of_next hv hnext hfresh)⟩

end Flowchart.Graph
