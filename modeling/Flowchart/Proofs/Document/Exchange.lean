import Flowchart.CommandLine.Run
import Flowchart.Proofs.Json.Record

/-!
# Documents come back from JSON

A document is read back from its JSON text, whatever its texts are made of and
whether or not it hangs together (`exchange_lossless`): each of its records is
filled in by its members, an edge with a label or without. So nothing is lost
when a diagram is passed on as JSON, and generating from what the parser printed
is formatting.
-/

namespace Flowchart

open Json

/-! ## The words -/

theorem Direction.reads_keyword (d : Direction) :
    Reads (readWord vocabulary) (.text d.keyword) d :=
  reads_word fun _ => by cases d <;> rfl

theorem Shape.reads_name (s : Shape) : Reads (readWord vocabulary) (.text s.name) s :=
  reads_word fun _ => by cases s <;> rfl

theorem LineStyle.reads_name (s : LineStyle) : Reads (readWord vocabulary) (.text s.name) s :=
  reads_word fun _ => by cases s <;> rfl

/-! ## The records -/

/-- A node is read back. -/
theorem Node.reads_toJson (n : Node) : Reads (readRecord schema) n.toJson n := by
  refine reads_record (by decide) ?_
  refine .member (.head _) (by decide) (reads_member "id" true _ (reads_text n.id)) ?_
  refine .member (.tail _ (.head _)) (by decide)
    (reads_member "label" true _ (reads_text n.label)) ?_
  refine .member (.tail _ (.tail _ (.head _))) (by decide)
    (reads_member "shape" false _ n.shape.reads_name) ?_
  exact .done (by decide)

/-- The style is the last member of an edge, with a label before it or without. -/
theorem Edge.fills_style {given : List String} (e : Edge) (hnew : "style" ∉ given)
    (hgiven : ∀ name ∈ ["id", "source", "target"], name ∈ given) (style : LineStyle) :
    Fills schema given e [("style", .text style.name)] { e with style } := by
  refine .member (.tail _ (.tail _ (.tail _ (.tail _ (.head _))))) hnew
    (reads_member "style" false _ style.reads_name) (.done fun m hm hrequired => ?_)
  refine List.mem_cons_of_mem _ (hgiven _ ?_)
  revert hrequired
  revert m
  decide

/-- An edge is read back. -/
theorem Edge.reads_toJson (e : Edge) : Reads (readRecord schema) e.toJson e := by
  obtain ⟨id, source, target, label, style⟩ := e
  refine reads_record (by decide) ?_
  refine .member (.head _) (by decide) (reads_member "id" true _ (reads_text id)) ?_
  refine .member (.tail _ (.head _)) (by decide)
    (reads_member "source" true _ (reads_text source)) ?_
  refine .member (.tail _ (.tail _ (.head _))) (by decide)
    (reads_member "target" true _ (reads_text target)) ?_
  cases label with
  | none => exact Edge.fills_style ⟨id, source, target, none, .solid⟩ (by decide) (by decide) style
  | some label =>
    refine .member (.tail _ (.tail _ (.tail _ (.head _)))) (by decide)
      (reads_member "label" false _ (reads_option (reads_text label))) ?_
    exact Edge.fills_style ⟨id, source, target, some label, .solid⟩ (by decide) (by decide) style

namespace Document

/-- **A document is read back.** -/
theorem reads_toJson (d : Document) : Reads (readRecord schema) d.toJson d := by
  refine reads_record (by decide) ?_
  refine .member (.head _) (by decide)
    (reads_member "direction" false _ d.direction.reads_keyword) ?_
  refine .member (.tail _ (.head _)) (by decide)
    (reads_member "nodes" false _ (reads_list fun n _ => n.reads_toJson)) ?_
  refine .member (.tail _ (.tail _ (.head _))) (by decide)
    (reads_member "edges" false _ (reads_list fun e _ => e.reads_toJson)) ?_
  exact .done (by decide)

/-- **From its JSON text**, with white space behind it or without. -/
theorem ofJson_toJsonText_append (d : Document) {blanks : List Char} (hb : AllSpace blanks) :
    ofJson (d.toJsonText ++ String.ofList blanks) = .ok d := by
  rw [ofJson, ofJsonText, toJsonText, readAll_render d.reads_toJson Style.lawful_pretty hb]
  rfl

end Document

/-! ## From command to command -/

namespace CommandLine

/-- The bytes of a text are decoded to it. -/
theorem decode_toUTF8 (t : String) : decode t.toUTF8 = .ok t := by
  have hvalid : t.toUTF8.IsValidUTF8 := t.isValidUTF8
  rw [decode, String.fromUTF8?, dif_pos hvalid]
  rfl

/-- A command that has an answer to a text prints it on a line. -/
theorem run_toUTF8 (c : Command) {t answer : String} (h : c.answer t = .ok answer) :
    c.run (.ok t.toUTF8) = .printed (answer ++ "\n") := by
  have hinput : (Except.ok t.toUTF8).bind decode = .ok t := decode_toUTF8 t
  rw [Command.run, hinput]
  have hanswer : (do
      let text ← (Except.ok t).mapError c.unreadable
      c.answer text) = .ok answer := h
  rw [hanswer]

end CommandLine

open CommandLine in
/-- **Nothing is lost on the way through JSON.** Every document is read back from
its JSON text. So generating from the JSON of what was parsed is formatting, as a
function of the text and on the command line, where the generator is given the
line that the parser prints. -/
theorem exchange_lossless :
    (∀ d : Document, Document.ofJson d.toJsonText = .ok d) ∧
      (∀ t : String, (Document.ofJson (Document.parse t).toJsonText).map Document.render =
        .ok (format t)) ∧
      ∀ (t : String) (c c' c'' : Choices), ∃ json,
        Command.run ⟨.parse, c⟩ (.ok t.toUTF8) = .printed json ∧
          Command.run ⟨.generate, c'⟩ (.ok json.toUTF8) =
            Command.run ⟨.format, c''⟩ (.ok t.toUTF8) := by
  have hread : ∀ d : Document, Document.ofJson d.toJsonText = .ok d := by
    intro d
    simpa using d.ofJson_toJsonText_append allSpace_nil
  refine ⟨hread, fun t => ?_, fun t c c' c'' => ?_⟩
  · rw [hread]
    rfl
  · have hparse : Command.answer ⟨.parse, c⟩ t = .ok (Document.parse t).toJsonText := rfl
    have hformat : Command.answer ⟨.format, c''⟩ t = .ok (format t) := rfl
    -- the line feed that was printed is white space behind the document
    have hgenerate : Command.answer ⟨.generate, c'⟩ ((Document.parse t).toJsonText ++ "\n") =
        .ok (format t) := by
      have hfeed : AllSpace ['\n'] := by simp [AllSpace, isSpace]
      have hline := (Document.parse t).ofJson_toJsonText_append hfeed
      rw [Command.answer]
      exact congrArg (Except.map Document.render) hline
    exact ⟨_, run_toUTF8 _ hparse, (run_toUTF8 _ hgenerate).trans (run_toUTF8 _ hformat).symm⟩

end Flowchart
