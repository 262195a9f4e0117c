import Flowchart.Graph

/-!
# Lists without their repeats

`distinct` keeps the first of what is equal, `firstsBy` the first of what has the
same key. What a later part of a list adds is what no earlier part holds
(`distinct_append`); apart from that, leaving repeats out can be done before or
after anything that tells no two members apart and brings none together
(`distinct_filter`, `distinct_map`). Who looks for a key finds the same member
either way (`find?_firstsBy`).
-/

namespace Flowchart

variable {κ β : Type} [DecidableEq κ] {keys : List κ}

/-- Of appended keys those are new that are not there already. -/
theorem distinct_append (keys added : List κ) :
    distinct (keys ++ added) = distinct keys ++ (distinct added).filter (· ∉ keys) := by
  induction keys with
  | nil =>
    exact (List.filter_eq_self.mpr fun _ _ => decide_eq_true List.not_mem_nil).symm
  | cons k keys ih =>
    rw [List.cons_append, distinct, distinct, ih, List.filter_append, List.filter_filter]
    congr 2
    refine List.filter_congr fun v _ => ?_
    simp [not_or]

/-- Keys that do not repeat are kept. -/
theorem distinct_eq_self (h : keys.Nodup) : distinct keys = keys := by
  induction keys with
  | nil => rfl
  | cons k keys ih =>
    obtain ⟨hk, hkeys⟩ := List.nodup_cons.mp h
    rw [distinct, ih hkeys, List.filter_eq_self.mpr fun a ha => decide_eq_true ?_]
    rintro rfl
    exact hk ha

theorem distinct_distinct (keys : List κ) : distinct (distinct keys) = distinct keys :=
  distinct_eq_self (nodup_distinct keys)

theorem distinct_filter (p : κ → Bool) (keys : List κ) :
    distinct (keys.filter p) = (distinct keys).filter p := by
  induction keys with
  | nil => rfl
  | cons k keys ih =>
    have hcomm : ((distinct keys).filter (· ≠ k)).filter p =
        ((distinct keys).filter p).filter (· ≠ k) := by
      rw [List.filter_filter, List.filter_filter]
      exact List.filter_congr fun a _ => Bool.and_comm ..
    by_cases hk : p k
    · rw [List.filter_cons_of_pos hk, distinct, distinct, List.filter_cons_of_pos hk, ih, hcomm]
    · -- what is not kept is not among the others either
      have hrest : ((distinct keys).filter p).filter (· ≠ k) = (distinct keys).filter p := by
        refine List.filter_eq_self.mpr fun a ha => decide_eq_true ?_
        rintro rfl
        exact hk (List.mem_filter.mp ha).2
      rw [List.filter_cons_of_neg hk, distinct, List.filter_cons_of_neg hk, ih, hcomm, hrest]

/-- Images repeat where the members do, if the map tells the members apart. -/
theorem distinct_map [DecidableEq β] {f : κ → β}
    (hf : ∀ a ∈ keys, ∀ b ∈ keys, f a = f b → a = b) :
    distinct (keys.map f) = (distinct keys).map f := by
  induction keys with
  | nil => rfl
  | cons k keys ih =>
    have hrest : ∀ a ∈ keys, ∀ b ∈ keys, f a = f b → a = b := fun a ha b hb =>
      hf a (List.mem_cons_of_mem k ha) b (List.mem_cons_of_mem k hb)
    rw [List.map_cons, distinct, distinct, List.map_cons, ih hrest, List.filter_map]
    refine congrArg (fun l => f k :: l.map f) (List.filter_congr fun a ha => ?_)
    have hmem : a ∈ k :: keys := List.mem_cons_of_mem k (mem_distinct.mp ha)
    have hiff : f a = f k ↔ a = k := ⟨hf a hmem k List.mem_cons_self, congrArg f⟩
    simp [hiff]

/-- The members whose key no earlier member has. -/
def firstsBy (key : β → κ) : List β → List β
  | [] => []
  | b :: rest => b :: (firstsBy key rest).filter fun a => key a ≠ key b

theorem map_firstsBy (key : β → κ) (l : List β) :
    (firstsBy key l).map key = distinct (l.map key) := by
  induction l with
  | nil => rfl
  | cons b l ih =>
    rw [firstsBy, List.map_cons, List.map_cons, distinct, ← ih, List.filter_map]
    rfl

/-- **The first member with a key is among those that are kept.** -/
theorem find?_firstsBy (key : β → κ) (k : κ) (l : List β) :
    (firstsBy key l).find? (key · == k) = l.find? (key · == k) := by
  induction l with
  | nil => rfl
  | cons b l ih =>
    by_cases hb : key b = k
    · rw [firstsBy, List.find?_cons_of_pos (by simpa using hb),
        List.find?_cons_of_pos (by simpa using hb)]
    · -- members that are left out have the key of the first, which is another
      have hkept : (fun a => decide (decide (key a ≠ key b) = true ∧ (key a == k) = true)) =
          fun a => key a == k := by
        funext a
        by_cases ha : key a = k
        · simp [ha, Ne.symm hb]
        · simp [ha]
      rw [firstsBy, List.find?_cons_of_neg (by simpa using hb),
        List.find?_cons_of_neg (by simpa using hb), List.find?_filter, hkept, ih]

end Flowchart
