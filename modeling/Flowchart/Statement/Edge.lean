import Flowchart.Statement.Node
import Flowchart.Text.Blank

/-!
# Edge statements

An edge statement is a source, an arrow, an optional label between bars and
a target. Each end is an identifier and may carry a shape; the shapes are
passed over here, because the definitions inside a line are collected from
the whole line. What follows the target is ignored.

The style of the line is not that of the arrow between source and target:
it is the first style whose arrow occurs anywhere on the line.
-/

namespace Flowchart

open Text

/-- The first line style whose arrow occurs on the line. A line on which
none occurs is no edge line. -/
def LineStyle.ofLine? (line : List Char) : Option LineStyle :=
  LineStyle.all.find? fun s => occurs s.arrow line

namespace Statement

/-- What an edge line says: its two ends and its label. -/
structure EdgeStatement where
  source : List Char
  target : List Char
  label : Option (List Char)
  deriving DecidableEq

/-- The text without the spaces and tabs at its front. -/
def skipGap (text : List Char) : List Char :=
  text.dropWhile isGap

/-- An end of an edge: an identifier, with the shape behind it passed over
if there is one. -/
def endpoint? (text : List Char) : Option (List Char × List Char) := do
  let (id, rest) ← identifier? text
  match shapedLabel? rest with
  | some (_, beyond) => return (id, beyond)
  | none => return (id, rest)

/-- The text behind the arrow at its front, whatever the style. -/
def afterArrow? (text : List Char) : Option (List Char) :=
  LineStyle.all.findSome? fun s => strip? s.arrow text

/-- The label between bars at the front of the text, behind a gap; if there
is none, the text stays as it is. -/
def edgeLabel (text : List Char) : Option (List Char) × List Char :=
  match skipGap text with
  | '|' :: inner =>
    match splitAt? '|' inner with
    | some (label, rest) => (some label, rest)
    | none => (none, text)
  | _ => (none, text)

/-- An edge statement at the front of the text, and the text behind it. -/
def edge? (text : List Char) : Option (EdgeStatement × List Char) := do
  let (source, rest) ← endpoint? text
  let rest ← afterArrow? (skipGap rest)
  let (label, rest) := edgeLabel rest
  let (target, rest) ← endpoint? (skipGap rest)
  return (⟨source, target, label⟩, rest)

end Statement

end Flowchart
