import Flowchart.Proofs.Statement.Edge

/-!
# The definitions on the line of an edge

The line of an edge is read twice, by readers that know nothing of each other.
The edge statement is read part by part, and the shapes behind its ends are
passed over; the scanner of definitions takes the line character by character
and knows no edges. `definitionsIn_of_edge?` says that they agree: the scanner
finds the shapes that were passed over, the source first, and after them only
what stands behind the target.

To say so, the statement is read with its shapes kept (`shapedEdge?`), and
leaving them out gives the statement back (`edge?_eq_map`). The scanner is then
taken past the parts of the statement one by one.
-/

namespace Flowchart.Statement

open Text

variable {text rest line : List Char} {e : EdgeStatement}

/-! ## Keeping the shapes -/

/-- An end of an edge: its identifier, and the shape behind it if there is one. -/
structure Endpoint where
  id : List Char
  shaped : Option ShapedLabel
  deriving DecidableEq

/-- The node that an end defines. Without a shape it defines none. -/
def Endpoint.definition? (e : Endpoint) : Option Node :=
  e.shaped.map fun l => ⟨String.ofList e.id, String.ofList l.label, l.shape⟩

/-- An edge statement with the shapes at its ends. -/
structure ShapedEdge where
  source : Endpoint
  target : Endpoint
  label : Option (List Char)
  deriving DecidableEq

namespace ShapedEdge

/-- The statement without the shapes. -/
def statement (e : ShapedEdge) : EdgeStatement :=
  ⟨e.source.id, e.target.id, e.label⟩

/-- The nodes that the ends define, the source first. -/
def definitions (e : ShapedEdge) : List Node :=
  e.source.definition?.toList ++ e.target.definition?.toList

end ShapedEdge

/-- An end at the front of the text, with its shape. -/
def shapedEndpoint? (text : List Char) : Option (Endpoint × List Char) := do
  let (id, rest) ← identifier? text
  match shapedLabel? rest with
  | some (l, beyond) => return (⟨id, some l⟩, beyond)
  | none => return (⟨id, none⟩, rest)

/-- An edge statement at the front of the text, with the shapes at its ends. -/
def shapedEdge? (text : List Char) : Option (ShapedEdge × List Char) := do
  let (source, rest) ← shapedEndpoint? text
  let rest ← afterArrow? (skipGap rest)
  let (label, rest) := edgeLabel rest
  let (target, rest) ← shapedEndpoint? (skipGap rest)
  return (⟨source, target, label⟩, rest)

theorem endpoint?_eq_map (text : List Char) :
    endpoint? text = (shapedEndpoint? text).map fun found => (found.1.id, found.2) := by
  rw [endpoint?, shapedEndpoint?]
  cases identifier? text with
  | none => rfl
  | some found =>
    obtain ⟨id, rest⟩ := found
    cases hl : shapedLabel? rest with
    | none => simp [hl]
    | some read => simp [hl]

/-- An end with a shape is a definition. -/
theorem node?_of_shapedEndpoint? {end' : Endpoint} {n : Node}
    (h : shapedEndpoint? text = some (end', rest)) (hn : end'.definition? = some n) :
    node? text = some (n, rest) := by
  simp only [shapedEndpoint?, Option.bind_eq_bind, Option.bind_eq_some_iff, Prod.exists] at h
  obtain ⟨id, inner, hid, h⟩ := h
  split at h
  · rename_i l beyond hl
    obtain ⟨rfl, rfl⟩ := Prod.mk.inj (Option.some.inj h)
    exact node?_eq_some_iff.mpr ⟨id, inner, l, hid, hl, (Option.some.inj hn).symm⟩
  · obtain ⟨rfl, rfl⟩ := Prod.mk.inj (Option.some.inj h)
    exact absurd hn (by simp [Endpoint.definition?])

/-- **Leaving out the shapes gives the statement back**, and the same rest of
the line. -/
theorem edge?_eq_map (text : List Char) :
    edge? text = (shapedEdge? text).map fun found => (found.1.statement, found.2) := by
  simp only [edge?, shapedEdge?, endpoint?_eq_map, Option.bind_eq_bind, Option.bind_map,
    Option.map_bind, Function.comp_def]
  rfl

/-! ## The scanner on the parts of a statement -/

/-- A gap is passed over. -/
theorem definitionsFrom_skipGap (text : List Char) :
    definitionsFrom true (skipGap text) = definitionsFrom true text := by
  have hgap : ∀ c ∈ text.takeWhile isGap, isIdentifierChar c = false ∧ c ≠ '|' := by
    intro c hc
    have hc : isGap c = true := List.all_eq_true.mp List.all_takeWhile c hc
    simp only [isGap, Bool.or_eq_true, beq_iff_eq] at hc
    rcases hc with rfl | rfl <;> exact ⟨by decide, by decide⟩
  rw [← definitionsFrom_marks hgap (skipGap text), skipGap, List.takeWhile_append_dropWhile]

/-- So is an arrow. -/
theorem definitionsFrom_afterArrow? (h : afterArrow? text = some rest) :
    definitionsFrom true text = definitionsFrom true rest := by
  obtain ⟨s, -, hs⟩ := List.exists_of_findSome?_eq_some h
  rw [strip?_eq_some_iff.mp hs]
  refine definitionsFrom_marks (fun c hc => ?_) rest
  have hmarks := mem_marks_of_mem_arrow s c hc
  exact ⟨isIdentifierChar_of_mem_marks c hmarks.1, hmarks.2⟩

/-- And so is a label between bars, if there is one. -/
theorem definitionsFrom_edgeLabel (text : List Char) :
    definitionsFrom true (edgeLabel text).2 = definitionsFrom true text := by
  rw [edgeLabel]
  split
  · rename_i inner hgap
    split
    · rename_i label rest hcut
      obtain ⟨rfl, hbar⟩ := splitAt?_eq_some_iff.mp hcut
      rw [← definitionsFrom_skipGap text, hgap, ← List.cons_append]
      exact (definitionsFrom_bars hbar rest).symm
    · rfl
  · rfl

/-- **An end is scanned as it is read**: what it defines is found first, and
the scanner goes on behind it. -/
theorem definitionsFrom_shapedEndpoint? {end' : Endpoint}
    (h : shapedEndpoint? text = some (end', rest)) :
    definitionsFrom true text = end'.definition?.toList ++ definitionsFrom true rest := by
  simp only [shapedEndpoint?, Option.bind_eq_bind, Option.bind_eq_some_iff, Prod.exists] at h
  obtain ⟨id, inner, hid, h⟩ := h
  obtain ⟨rfl, hword, hinner⟩ := identifier?_eq_some_iff.mp hid
  split at h
  · rename_i l beyond hl
    obtain ⟨rfl, rfl⟩ := Prod.mk.inj (Option.some.inj h)
    exact definitionsFrom_node (node?_eq_some_iff.mpr ⟨id, inner, l, hid, hl, rfl⟩)
  · rename_i hl
    obtain ⟨rfl, rfl⟩ := Prod.mk.inj (Option.some.inj h)
    -- the identifier is passed over, and what follows it belongs to no word
    rw [definitionsFrom_word hword (node?_append_eq_none hword hinner hl),
      definitionsFrom_false hinner]
    rfl

/-- The scanner finds what the ends define, and goes on behind the target. -/
theorem definitionsIn_of_shapedEdge? {s : ShapedEdge} (h : shapedEdge? line = some (s, rest)) :
    definitionsIn line = s.definitions ++ definitionsIn rest := by
  simp only [shapedEdge?, Option.bind_eq_bind, Option.bind_eq_some_iff, Prod.exists,
    Option.pure_def, Option.some.injEq, Prod.mk.injEq] at h
  obtain ⟨source, rest₁, hsource, rest₂, harrow, target, rest₃, htarget, rfl, rfl⟩ := h
  calc definitionsIn line
      = source.definition?.toList ++ definitionsFrom true rest₁ :=
        definitionsFrom_shapedEndpoint? hsource
    _ = source.definition?.toList ++ definitionsFrom true rest₂ := by
        rw [← definitionsFrom_skipGap rest₁, definitionsFrom_afterArrow? harrow]
    _ = source.definition?.toList ++
          definitionsFrom true (skipGap (edgeLabel rest₂).2) := by
        rw [definitionsFrom_skipGap, definitionsFrom_edgeLabel]
    _ = source.definition?.toList ++
          (target.definition?.toList ++ definitionsIn rest₃) := by
        rw [definitionsFrom_shapedEndpoint? htarget, definitionsIn]
    _ = _ := (List.append_assoc ..).symm

/-- **The two readers of an edge line agree.** Where the line holds an edge
statement, the definitions found on it are the source as it was read, if a shape
follows it, then the target as it was read, if a shape follows it, and then
those in the text behind the target. Nothing is found in a label or in the
arrow. -/
theorem definitionsIn_of_edge? (h : edge? line = some (e, rest)) :
    ∃ s, shapedEdge? line = some (s, rest) ∧ s.statement = e ∧
      definitionsIn line =
        s.source.definition?.toList ++ s.target.definition?.toList ++ definitionsIn rest := by
  rw [edge?_eq_map] at h
  obtain ⟨⟨s, beyond⟩, hs, he⟩ := Option.map_eq_some_iff.mp h
  obtain ⟨rfl, rfl⟩ := Prod.mk.inj he
  exact ⟨s, hs, rfl, definitionsIn_of_shapedEdge? hs⟩

/-- A line on which much looks like a definition: an arrow, a bar and a shape
in the quoted label of the source, a shape and an arrow in the label of the edge,
and a definition behind the target. -/
def crowdedLine : List Char :=
  "A[\"x --> B(y)|\"]-.->|C[c] ==> D| é((e)) F[f] |G[g]|".toList

theorem definitionsIn_of_edge?_crowdedLine :
    edge? crowdedLine = some (⟨['A'], ['é'], some "C[c] ==> D".toList⟩, " F[f] |G[g]|".toList) ∧
      ∃ s, shapedEdge? crowdedLine = some (s, " F[f] |G[g]|".toList) ∧
        s.statement = ⟨['A'], ['é'], some "C[c] ==> D".toList⟩ ∧
        definitionsIn crowdedLine = s.source.definition?.toList ++
          s.target.definition?.toList ++ definitionsIn " F[f] |G[g]|".toList := by
  have hread : edge? crowdedLine =
      some (⟨['A'], ['é'], some "C[c] ==> D".toList⟩, " F[f] |G[g]|".toList) := by
    decide +kernel
  exact ⟨hread, definitionsIn_of_edge? hread⟩

end Flowchart.Statement
