import Flowchart.Graph
import Mathlib.Data.Fintype.Card
import Mathlib.Data.Set.Finite.Basic

/-!
# Cycles and what lies behind them

A vertex is behind a cycle if a path leads to it from a vertex on a cycle;
the vertices of the cycle are behind it themselves, and a loop is a cycle.
The other vertices are those that can be put into order: what holds of a
vertex as soon as it holds of all vertices with an arrow to it, holds of them
all (`not_behindCycle_induction`). There are finitely many arrows, so a chain of
predecessors that never ends has to repeat.
-/

namespace Flowchart.Graph

open Relation

variable {κ : Type} {g : Graph κ} {u v w : κ}

/-- An arrow leads from one vertex to the other. -/
def Arrow (g : Graph κ) (v w : κ) : Prop :=
  (v, w) ∈ g.arrows

/-- A path of any number of arrows leads from one vertex to the other. -/
def Reaches (g : Graph κ) : κ → κ → Prop :=
  ReflTransGen g.Arrow

/-- A path of one arrow or more leads from the vertex to itself. -/
def OnCycle (g : Graph κ) (v : κ) : Prop :=
  TransGen g.Arrow v v

/-- The vertex is on a cycle or can be reached from one. -/
def BehindCycle (g : Graph κ) (v : κ) : Prop :=
  ∃ c, g.OnCycle c ∧ g.Reaches c v

theorem OnCycle.behindCycle (h : g.OnCycle v) : g.BehindCycle v :=
  ⟨v, h, ReflTransGen.refl⟩

/-- What an arrow leads to from behind a cycle is behind it, too. -/
theorem BehindCycle.step (h : g.BehindCycle v) (ha : g.Arrow v w) : g.BehindCycle w := by
  obtain ⟨c, hc, hcv⟩ := h
  exact ⟨c, hc, hcv.tail ha⟩

/-- The vertices with an arrow from them that are not behind a cycle. -/
abbrev Orderable (g : Graph κ) : Type :=
  { v : κ // v ∈ g.arrows.map Prod.fst ∧ ¬ g.BehindCycle v }

/-- A path between vertices that are not behind a cycle never comes back. -/
theorem wellFounded_orderable (g : Graph κ) :
    WellFounded fun v w : g.Orderable => TransGen g.Arrow v.1 w.1 := by
  have hfinite : Finite g.Orderable :=
    ((List.finite_toSet (g.arrows.map Prod.fst)).subset fun _ hv => hv.1).to_subtype
  have htrans : IsTrans g.Orderable fun v w => TransGen g.Arrow v.1 w.1 :=
    ⟨fun _ _ _ => TransGen.trans⟩
  have hirrefl : Std.Irrefl fun v w : g.Orderable => TransGen g.Arrow v.1 w.1 :=
    ⟨fun v hv => v.2.2 (OnCycle.behindCycle hv)⟩
  exact Finite.wellFounded_of_trans_of_irrefl _

/-- **Induction along the arrows.** What passes from all predecessors of a
vertex to the vertex holds of every vertex that is not behind a cycle. -/
theorem not_behindCycle_induction {P : κ → Prop}
    (step : ∀ w, ¬ g.BehindCycle w → (∀ v, g.Arrow v w → P v) → P w)
    (h : ¬ g.BehindCycle w) : P w := by
  -- a predecessor has an arrow from it, so the induction runs on finitely many vertices
  have hmem : ∀ {v w}, g.Arrow v w → ¬ g.BehindCycle w →
      v ∈ g.arrows.map Prod.fst ∧ ¬ g.BehindCycle v :=
    fun ha hw => ⟨List.mem_map.mpr ⟨_, ha, rfl⟩, fun hv => hw (hv.step ha)⟩
  have hall : ∀ v : g.Orderable, P v.1 := by
    intro v
    induction v using (wellFounded_orderable g).induction with
    | h w ih => exact step w.1 w.2.2 fun v ha => ih ⟨v, hmem ha w.2.2⟩ (TransGen.single ha)
  exact step w h fun v ha => hall ⟨v, hmem ha h⟩

end Flowchart.Graph
