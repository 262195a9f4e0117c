/-!
# The first match in a list

A search through a list of candidates answers with the first that fits. Both
forms of search are put here as two statements about the answer: it fits, and
no candidate that stands before it does.
-/

namespace Flowchart

variable {α β : Type} [DecidableEq α] {a : α} {l : List α}

/-- The candidates that stand before the first `a`. -/
def preceding (a : α) (l : List α) : List α :=
  l.takeWhile (· != a)

theorem preceding_append {front back : List α} (h : a ∉ front) :
    preceding a (front ++ a :: back) = front := by
  have hfront : ∀ b ∈ front, (b != a) = true := by
    intro b hb
    simp only [bne_iff_ne, ne_eq]
    rintro rfl
    exact h hb
  rw [preceding, List.takeWhile_append_of_pos hfront, List.takeWhile_cons_of_neg (by simp),
    List.append_nil]

theorem find?_eq_some_iff_preceding {p : α → Bool} :
    l.find? p = some a ↔ a ∈ l ∧ p a = true ∧ ∀ b ∈ preceding a l, p b = false := by
  rw [List.find?_eq_some_iff_append]
  constructor
  · rintro ⟨ha, front, back, rfl, hfront⟩
    have hnot : a ∉ front := fun hm => by simpa [ha] using hfront a hm
    refine ⟨by simp, ha, ?_⟩
    rw [preceding_append hnot]
    exact fun b hb => by simpa using hfront b hb
  · rintro ⟨hm, ha, hb⟩
    obtain ⟨front, back, rfl, hnot⟩ := List.eq_append_cons_of_mem hm
    rw [preceding_append hnot] at hb
    exact ⟨ha, front, back, rfl, fun b hm => by simp [hb b hm]⟩

theorem findSome?_eq_some_iff_preceding {f : α → Option β} {b : β} :
    l.findSome? f = some b ↔ ∃ a ∈ l, f a = some b ∧ ∀ c ∈ preceding a l, f c = none := by
  rw [List.findSome?_eq_some_iff]
  constructor
  · rintro ⟨front, a, back, rfl, ha, hfront⟩
    have hnot : a ∉ front := fun hm => by simp [hfront a hm] at ha
    refine ⟨a, by simp, ha, ?_⟩
    rw [preceding_append hnot]
    exact hfront
  · rintro ⟨a, hm, ha, hc⟩
    obtain ⟨front, back, rfl, hnot⟩ := List.eq_append_cons_of_mem hm
    rw [preceding_append hnot] at hc
    exact ⟨front, a, back, rfl, ha, hc⟩

end Flowchart
