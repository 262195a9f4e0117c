import Flowchart.Proofs.Layout.Place
import Mathlib.Algebra.Order.BigOperators.Group.List
import Mathlib.Algebra.Order.Field.Rat
import Mathlib.Tactic.Linarith
import Mathlib.Tactic.Ring

/-!
# The geometry of ranks over exact numbers

Read over the rational numbers, the boxes of one rank begin a fixed gap behind
one another (`rowSpan`), and the first and the last lie evenly around the offset
of their component (`placeRank_eq`). So a rank is told by its outermost boxes:
where the first begins (`exists_first_placeRank`), where the last does
(`exists_last_placeRank`), and that all others stand between them
(`bounds_placeRank`).
-/

namespace Flowchart

open Flowchart.Graph

instance : Coordinate ℚ where
  zero := 0
  ofNat n := n
  half a := a / 2
  lower := min
  upper := max

variable {gap start offset x : ℚ} {extent : String → ℚ} {ids : List String} {last : String}
variable {o : LayoutOptions ℚ} {r : Nat} {p : Placement ℚ}

/-- How far the last of some boxes begins behind the first. -/
def rowSpan (gap : ℚ) (extent : String → ℚ) (ids : List String) : ℚ :=
  (ids.dropLast.map fun id => extent id + gap).sum

theorem rowSpan_singleton (gap : ℚ) (extent : String → ℚ) (id : String) :
    rowSpan gap extent [id] = 0 := rfl

theorem rowSpan_cons_cons (gap : ℚ) (extent : String → ℚ) (id next : String) (ids : List String) :
    rowSpan gap extent (id :: next :: ids) =
      extent id + gap + rowSpan gap extent (next :: ids) := by
  rw [rowSpan, List.dropLast_cons_of_ne_nil (List.cons_ne_nil next ids), List.map_cons,
    List.sum_cons]
  rfl

theorem rowSpan_nonneg (hgap : 0 ≤ gap) (hextent : ∀ id, 0 ≤ extent id) (ids : List String) :
    0 ≤ rowSpan gap extent ids := by
  refine List.sum_nonneg fun step hstep => ?_
  obtain ⟨id, -, rfl⟩ := List.mem_map.mp hstep
  exact add_nonneg (hextent id) hgap

/-! ## Lining up -/

theorem lineUp_cons (gap : ℚ) (extent : String → ℚ) (start : ℚ) (id : String)
    (ids : List String) : lineUp gap extent start (id :: ids) =
      (id, start) :: lineUp gap extent (start + (extent id + gap)) ids := rfl

/-- The last box begins where the span ends. -/
theorem last_mem_lineUp (gap : ℚ) (extent : String → ℚ) (start : ℚ)
    (hlast : ids.getLast? = some last) :
    (last, start + rowSpan gap extent ids) ∈ lineUp gap extent start ids := by
  induction ids generalizing start with
  | nil => exact absurd hlast (by simp)
  | cons id ids ih =>
    cases ids with
    | nil =>
      obtain rfl : id = last := Option.some.inj hlast
      rw [rowSpan_singleton, add_zero]
      exact List.mem_cons_self
    | cons next ids =>
      have hspan : start + rowSpan gap extent (id :: next :: ids) =
          start + (extent id + gap) + rowSpan gap extent (next :: ids) := by
        rw [rowSpan_cons_cons]
        ring
      rw [hspan, lineUp_cons]
      rw [List.getLast?_cons_cons] at hlast
      exact List.mem_cons_of_mem _ (ih _ hlast)

/-- No box begins before the first, and none ends behind the last. -/
theorem bounds_lineUp (hgap : 0 ≤ gap) (hextent : ∀ id, 0 ≤ extent id)
    (hlast : ids.getLast? = some last) {e : String × ℚ} (he : e ∈ lineUp gap extent start ids) :
    start ≤ e.2 ∧ e.2 ≤ start + rowSpan gap extent ids ∧
      e.2 + extent e.1 ≤ start + rowSpan gap extent ids + extent last := by
  induction ids generalizing start with
  | nil => exact absurd he List.not_mem_nil
  | cons id ids ih =>
    rw [lineUp_cons] at he
    cases ids with
    | nil =>
      obtain rfl : id = last := Option.some.inj hlast
      obtain rfl := List.mem_singleton.mp he
      simp [rowSpan_singleton]
    | cons next ids =>
      rw [List.getLast?_cons_cons] at hlast
      rw [rowSpan_cons_cons]
      have hid := hextent id
      rcases List.mem_cons.mp he with rfl | he
      · have hspan := rowSpan_nonneg hgap hextent (next :: ids)
        have hsize := hextent last
        refine ⟨le_refl start, ?_, ?_⟩ <;> simp only <;> linarith
      · obtain ⟨hlower, hupper, hend⟩ := ih hlast he
        exact ⟨by linarith, by linarith, by linarith⟩

/-- The middle is told by the smallest and the largest position. -/
theorem middle_eq {positions : List ℚ} {lo hi : ℚ} (hlo : lo ∈ positions) (hhi : hi ∈ positions)
    (hbounds : ∀ p ∈ positions, lo ≤ p ∧ p ≤ hi) : middle positions = (lo + hi) / 2 := by
  cases positions with
  | nil => exact absurd hlo List.not_mem_nil
  | cons p rest =>
    have hmin : rest.foldl min p = lo := by
      refine Option.some.inj (List.min?_cons'.symm.trans ?_)
      exact List.min?_eq_some_iff.mpr ⟨hlo, fun q hq => (hbounds q hq).1⟩
    have hmax : rest.foldl max p = hi := by
      refine Option.some.inj (List.max?_cons'.symm.trans ?_)
      exact List.max?_eq_some_iff.mpr ⟨hhi, fun q hq => (hbounds q hq).2⟩
    rw [← hmin, ← hmax]
    rfl

/-! ## One rank -/

section Rank

variable (hgap : 0 ≤ o.nodeGap) (hextent : ∀ id, 0 ≤ extent id)

include hgap hextent

/-- **A rank lies evenly around its offset.** -/
theorem placeRank_eq (offset : ℚ) (r : Nat) (ids : List String) :
    placeRank o extent offset r ids =
      (lineUp o.nodeGap extent 0 ids).map fun e => .along o.direction e.1
        (e.2 - rowSpan o.nodeGap extent ids / 2 + offset) (rankPosition o r) := by
  cases hlast : ids.getLast? with
  | none =>
    obtain rfl := List.getLast?_eq_none_iff.mp hlast
    rfl
  | some last =>
    obtain ⟨id, rest, rfl⟩ : ∃ id rest, ids = id :: rest :=
      List.exists_cons_of_ne_nil fun hnil => by simp [hnil] at hlast
    have hmiddle : middle ((lineUp o.nodeGap extent 0 (id :: rest)).map (·.2)) =
        rowSpan o.nodeGap extent (id :: rest) / 2 := by
      have hfirst : 0 ∈ (lineUp o.nodeGap extent 0 (id :: rest)).map (·.2) := List.mem_cons_self
      have hend := List.mem_map_of_mem (f := Prod.snd) (last_mem_lineUp o.nodeGap extent 0 hlast)
      refine (middle_eq hfirst hend fun q hq => ?_).trans (by ring)
      obtain ⟨e, he, rfl⟩ := List.mem_map.mp hq
      obtain ⟨hlower, hupper, -⟩ := bounds_lineUp hgap hextent hlast he
      exact ⟨hlower, hupper⟩
    rw [← hmiddle]
    rfl

/-- Its first box begins half its span before the offset. -/
theorem exists_first_placeRank (hne : ids ≠ []) : ∃ p ∈ placeRank o extent offset r ids,
    p.nodeAxis o.direction = offset - rowSpan o.nodeGap extent ids / 2 := by
  obtain ⟨id, rest, rfl⟩ := List.exists_cons_of_ne_nil hne
  rw [placeRank_eq hgap hextent]
  refine ⟨_, List.mem_map_of_mem List.mem_cons_self, ?_⟩
  rw [Placement.nodeAxis_along]
  ring

/-- Its last box begins half its span behind the offset. -/
theorem exists_last_placeRank (hlast : ids.getLast? = some last) :
    ∃ p ∈ placeRank o extent offset r ids, p.id = last ∧
      p.nodeAxis o.direction = offset + rowSpan o.nodeGap extent ids / 2 := by
  rw [placeRank_eq hgap hextent]
  refine ⟨_, List.mem_map_of_mem (last_mem_lineUp o.nodeGap extent 0 hlast), ?_, ?_⟩
  · exact Placement.id_along ..
  · rw [Placement.nodeAxis_along]
    ring

/-- All its boxes stand between these two. -/
theorem bounds_placeRank (hlast : ids.getLast? = some last)
    (hp : p ∈ placeRank o extent offset r ids) :
    offset - rowSpan o.nodeGap extent ids / 2 ≤ p.nodeAxis o.direction ∧
      p.nodeAxis o.direction + extent p.id ≤
        offset + rowSpan o.nodeGap extent ids / 2 + extent last := by
  rw [placeRank_eq hgap hextent] at hp
  obtain ⟨e, he, rfl⟩ := List.mem_map.mp hp
  obtain ⟨hlower, -, hend⟩ := bounds_lineUp hgap hextent hlast he
  rw [Placement.nodeAxis_along, Placement.id_along]
  constructor <;> linarith

end Rank

end Flowchart
