import Flowchart.CommandLine.Arguments
import Flowchart.Document.Render
import Flowchart.Document.Sort
import Flowchart.Error
import Flowchart.Layout.Exchange
import Flowchart.Size

/-!
# Running commands

A command turns the bytes of its input into text to print, or into an error.
Where the bytes come from is not decided here: `Command.run` is given what
came of reading the file, or of reading standard input if there is no file.
-/

namespace Flowchart.CommandLine

/-- What a program run ends with. -/
inductive Outcome where
  /-- This text on standard output, and success. -/
  | printed (text : String)
  /-- This text on standard error, and failure. -/
  | failed (text : String)

/-- The text that bytes spell in UTF-8. -/
def decode (bytes : ByteArray) : Except Unreadable String :=
  match String.fromUTF8? bytes with
  | some text => .ok text
  | none => .error .notText

namespace Choices

/-- The layout options that the choices make for a diagram of the given
direction. -/
def layoutOptions (c : Choices) (own : Direction) : LayoutOptions Float where
  direction := c.direction.getD own
  nodeGap := c.nodeSpacing.getD LayoutOptions.standard.nodeGap
  rankGap := c.rankSpacing.getD LayoutOptions.standard.rankGap
  grouping := if c.undirected then .undirected else .forward

end Choices

namespace Command

/-- What the command prints for an input text. -/
def answer (c : Command) (input : String) : Except Error String :=
  match c.action with
  | .parse => .ok (Document.parse input).toJsonText
  | .generate => (Document.ofJson input).map Document.render
  | .format => .ok (Flowchart.format input)
  | .layout =>
    let d := Document.parse input
    let placements := d.layout (c.choices.layoutOptions d.direction) {}
    .ok (Json.render .pretty (layoutJson placements))
  | .sort => .ok ("\n".intercalate ((Document.parse input).sortedNodes.map Node.id))

/-- The error of an input that cannot be read. -/
def unreadable (c : Command) (reason : Unreadable) : Error :=
  match c.choices.file with
  | some path => .unreadableFile path reason
  | none => .unreadableInput reason

/-- **What the command comes to**, given what came of reading its input. -/
def run (c : Command) (input : Except Unreadable ByteArray) : Outcome :=
  let printed := do
    let text ← (input.bind decode).mapError c.unreadable
    c.answer text
  match printed with
  | .ok text => .printed (text ++ "\n")
  | .error e => .failed ("ERROR: " ++ e.message ++ "\n")

end Command

end Flowchart.CommandLine
