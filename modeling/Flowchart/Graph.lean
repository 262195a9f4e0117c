/-!
# Directed graphs

A graph is an ordered list of distinct vertices and an ordered list of
arrows between them; parallel arrows and loops are allowed. `Graph.between`
makes one from any lists of keys and links: a repeated key counts once, at
its first place, and a link with an unknown end is left out.
-/

namespace Flowchart

/-- A directed graph whose vertices and arrows come in an order. -/
structure Graph (κ : Type) where
  vertices : List κ
  arrows : List (κ × κ)

variable {κ : Type} [DecidableEq κ]

/-- The list without what stands in it earlier already. -/
def distinct : List κ → List κ
  | [] => []
  | k :: rest => k :: (distinct rest).filter (· ≠ k)

@[simp]
theorem mem_distinct {k : κ} {keys : List κ} : k ∈ distinct keys ↔ k ∈ keys := by
  induction keys with
  | nil => simp [distinct]
  | cons a rest ih =>
    by_cases h : k = a
    · simp [distinct, h]
    · simp [distinct, h, ih]

theorem nodup_distinct (keys : List κ) : (distinct keys).Nodup := by
  induction keys with
  | nil => simp [distinct]
  | cons a rest ih =>
    simp only [distinct, List.nodup_cons]
    exact ⟨by simp, ih.filter _⟩

namespace Graph

/-- The graph on the given keys with those links that join two of them. -/
def between (keys : List κ) (links : List (κ × κ)) : Graph κ where
  vertices := distinct keys
  arrows := links.filter fun link => link.1 ∈ keys ∧ link.2 ∈ keys

/-- The ends of the arrows that leave a vertex, in arrow order. -/
def targets (g : Graph κ) (v : κ) : List κ :=
  (g.arrows.filter (·.1 = v)).map (·.2)

/-- The beginnings of the arrows that enter a vertex, in arrow order. -/
def sources (g : Graph κ) (v : κ) : List κ :=
  (g.arrows.filter (·.2 = v)).map (·.1)

theorem mem_targets {g : Graph κ} {v w : κ} : w ∈ g.targets v ↔ (v, w) ∈ g.arrows := by
  simp only [targets, List.mem_map, List.mem_filter, decide_eq_true_eq, Prod.exists]
  constructor
  · rintro ⟨a, b, ⟨h, rfl⟩, rfl⟩; exact h
  · intro h; exact ⟨v, w, ⟨h, rfl⟩, rfl⟩

theorem mem_sources {g : Graph κ} {v w : κ} : w ∈ g.sources v ↔ (w, v) ∈ g.arrows := by
  simp only [sources, List.mem_map, List.mem_filter, decide_eq_true_eq, Prod.exists]
  constructor
  · rintro ⟨a, b, ⟨h, rfl⟩, rfl⟩; exact h
  · intro h; exact ⟨w, v, ⟨h, rfl⟩, rfl⟩

theorem mem_arrows_between {keys : List κ} {links : List (κ × κ)} {v w : κ} :
    (v, w) ∈ (between keys links).arrows ↔ (v, w) ∈ links ∧ v ∈ keys ∧ w ∈ keys := by
  simp [between]

end Graph

end Flowchart
