import Flowchart.Statement.Label
import Flowchart.Text.Alphanumeric

/-!
# Node definitions

A node definition is an identifier with a shaped label directly behind it.
It stands on a line of its own, or inside an edge line: `definitionsIn`
finds the definitions inside a line, from left to right, starting only where
a word starts and passing over the text between bars, which is an edge
label.
-/

namespace Flowchart.Statement

open Text

/-- A character that identifiers are made of. -/
def isIdentifierChar (c : Char) : Bool :=
  isAlphanumeric c || c == '_'

/-- The longest identifier at the front of the text. -/
def identifier? (text : List Char) : Option (List Char × List Char) :=
  match text.takeWhile isIdentifierChar with
  | [] => none
  | c :: word => some (c :: word, text.dropWhile isIdentifierChar)

/-- An identifier with a shaped label directly behind it. -/
def node? (text : List Char) : Option (Node × List Char) := do
  let (id, rest) ← identifier? text
  let (shaped, rest) ← shapedLabel? rest
  return (⟨String.ofList id, String.ofList shaped.label, shaped.shape⟩, rest)

theorem identifier?_eq_some {text id rest : List Char} (h : identifier? text = some (id, rest)) :
    text = id ++ rest ∧ id ≠ [] ∧ ∀ c ∈ id, isIdentifierChar c = true := by
  unfold identifier? at h
  split at h
  · simp at h
  · rename_i c word hw
    obtain ⟨rfl, rfl⟩ := Prod.mk.inj (Option.some.inj h)
    refine ⟨?_, by simp, fun x hx => ?_⟩
    · rw [← hw, List.takeWhile_append_dropWhile]
    · rw [← hw] at hx
      exact List.all_eq_true.mp List.all_takeWhile x hx

/-- Reading a node definition uses up text. -/
theorem length_lt_of_node? {text rest : List Char} {n : Node}
    (h : node? text = some (n, rest)) : rest.length < text.length := by
  simp only [node?, Option.bind_eq_bind, Option.bind_eq_some_iff, Option.pure_def,
    Option.some.injEq, Prod.exists, Prod.mk.injEq] at h
  obtain ⟨id, r, hi, l, r', hl, _, rfl⟩ := h
  have := length_lt_of_shapedLabel? hl
  rw [(identifier?_eq_some hi).1, List.length_append]
  omega

/-- The text behind a label between bars, at the front of the text. -/
def afterBars? : List Char → Option (List Char)
  | '|' :: text => (splitAt? '|' text).map (·.2)
  | _ => none

theorem length_lt_of_afterBars? {text rest : List Char} (h : afterBars? text = some rest) :
    rest.length < text.length := by
  unfold afterBars? at h
  split at h
  · obtain ⟨⟨before, after⟩, hs, rfl⟩ := Option.map_eq_some_iff.mp h
    have := congrArg List.length (splitAt?_eq_some_iff.mp hs).1
    simp only [List.length_append, List.length_cons] at this ⊢
    omega
  · simp at h

/-- The node definitions in the text; `atWord` says whether a word may start
at the front of it. -/
def definitionsFrom (atWord : Bool) (text : List Char) : List Node :=
  match text with
  | [] => []
  | c :: tail =>
    match _found : if atWord && isIdentifierChar c then node? (c :: tail) else none with
    | some (n, rest) => n :: definitionsFrom true rest
    | none =>
      match _barred : afterBars? (c :: tail) with
      | some rest => definitionsFrom true rest
      | none => definitionsFrom (!isIdentifierChar c) tail
termination_by text.length
decreasing_by
  · split at _found
    · exact length_lt_of_node? _found
    · simp at _found
  · exact length_lt_of_afterBars? _barred
  · simp

/-- The node definitions inside a line, from left to right. -/
def definitionsIn (line : List Char) : List Node :=
  definitionsFrom true line

end Flowchart.Statement
