/-!
# Tables of code points

A class of characters is given by the closed ranges of its code points, in
ascending order. Looking a character up walks the ranges and stops at the
first one that lies beyond it.
-/

namespace Flowchart.Text

/-- A class of characters, as ascending closed ranges of code points. -/
abbrev CodeRanges := List (Nat × Nat)

namespace CodeRanges

/-- Whether one of the ranges holds the code point `n`. -/
def covers : CodeRanges → Nat → Bool
  | [], _ => false
  | (low, high) :: rest, n => if n < low then false else n ≤ high || covers rest n

/-- Whether the class has the character as a member. -/
def holds (table : CodeRanges) (c : Char) : Bool :=
  table.covers c.toNat

/-- A covered code point lies in one of the ranges. -/
theorem exists_of_covers {table : CodeRanges} {n : Nat} (h : table.covers n = true) :
    ∃ r ∈ table, r.1 ≤ n ∧ n ≤ r.2 := by
  induction table with
  | nil => simp [covers] at h
  | cons r rest ih =>
    obtain ⟨low, high⟩ := r
    simp only [covers] at h
    split at h
    · simp at h
    · rcases Bool.or_eq_true_iff.mp h with h | h
      · exact ⟨(low, high), by simp, by omega, of_decide_eq_true h⟩
      · obtain ⟨r, hr, hn⟩ := ih h
        exact ⟨r, List.mem_cons_of_mem _ hr, hn⟩

end CodeRanges

end Flowchart.Text
