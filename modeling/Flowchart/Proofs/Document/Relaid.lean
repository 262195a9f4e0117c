import Flowchart.Document.Parse
import Flowchart.Proofs.Text.Lines
import Flowchart.Proofs.Text.Trim
import Mathlib.Logic.Relation

/-!
# Layout of a text

A text can be laid out anew without saying anything else (`Relaid`): lines that say
nothing come and go below the first one, white space is put around any line or taken
away, line endings change between the two forms, and the last one may be missing.
Reading looks at the trimmed lines (`ofLines_trimmedLines`). White space at the start or
the end of a line does not change these, a carriage return in front of a line feed being
such white space, and a line that says nothing is passed over wherever it stands behind
the header (`ofLines_append_silent`). So a change of layout leaves the document as it is, and so
does any number of them (`parse_relaid`).
-/

namespace Flowchart

open Text

variable {blanks line : List Char} {above : List (List Char)}

/-! ## Trimmed lines -/

namespace Text

/-- The lines of a text without the white space around them. -/
def trimmedLines (text : List Char) : List (List Char) :=
  (splitLines text).map trim

theorem trimmedLines_append_lineFeed (before after : List Char) :
    trimmedLines (before ++ '\n' :: after) = trimmedLines before ++ trimmedLines after := by
  rw [trimmedLines, splitLines_append_lineFeed, List.map_append]
  rfl

theorem trimmedLines_singleton (h : '\n' ∉ line) : trimmedLines line = [trim line] := by
  rw [trimmedLines, splitLines_eq_singleton h, List.map_singleton]

/-- White space that breaks no line. -/
def IsSpace (blanks : List Char) : Prop :=
  ∀ c ∈ blanks, isBlank c = true ∧ c ≠ '\n'

theorem IsSpace.isBlank (h : IsSpace blanks) : ∀ c ∈ blanks, isBlank c = true :=
  fun c hc => (h c hc).1

theorem IsSpace.lineFeed_notMem (h : IsSpace blanks) : '\n' ∉ blanks :=
  fun hc => (h '\n' hc).2 rfl

theorem isSpace_singleton {c : Char} (hc : isBlank c = true) (hne : c ≠ '\n') : IsSpace [c] := by
  intro d hd
  obtain rfl := List.mem_singleton.mp hd
  exact ⟨hc, hne⟩

/-- White space in front of a text belongs to its first line, -/
theorem trimmedLines_append_left (hb : IsSpace blanks) (text : List Char) :
    trimmedLines (blanks ++ text) = trimmedLines text := by
  by_cases hfeed : '\n' ∈ text
  · obtain ⟨first, rest, rfl, hfirst⟩ := List.eq_append_cons_of_mem hfeed
    have hline : '\n' ∉ blanks ++ first := by simp [hb.lineFeed_notMem, hfirst]
    rw [← List.append_assoc, trimmedLines_append_lineFeed, trimmedLines_append_lineFeed,
      trimmedLines_singleton hline, trimmedLines_singleton hfirst, trim_append_left hb.isBlank]
  · have hline : '\n' ∉ blanks ++ text := by simp [hb.lineFeed_notMem, hfeed]
    rw [trimmedLines_singleton hline, trimmedLines_singleton hfeed, trim_append_left hb.isBlank]

/-- and white space behind it to its last. -/
theorem trimmedLines_append_right (hb : IsSpace blanks) (text : List Char) :
    trimmedLines (text ++ blanks) = trimmedLines text := by
  by_cases hfeed : '\n' ∈ text
  · -- the last line is the first one from the back
    obtain ⟨last, rest, hrev, hlast⟩ := List.eq_append_cons_of_mem (List.mem_reverse.mpr hfeed)
    have htext : text = rest.reverse ++ '\n' :: last.reverse := by
      rw [← List.reverse_reverse text, hrev]
      simp
    have hfree : '\n' ∉ last.reverse := by rwa [List.mem_reverse]
    have hline : '\n' ∉ last.reverse ++ blanks := by simp [hb.lineFeed_notMem, hlast]
    rw [htext, List.append_assoc, List.cons_append, trimmedLines_append_lineFeed,
      trimmedLines_append_lineFeed, trimmedLines_singleton hline,
      trimmedLines_singleton hfree, trim_append_right hb.isBlank]
  · have hline : '\n' ∉ text ++ blanks := by simp [hb.lineFeed_notMem, hfeed]
    rw [trimmedLines_singleton hline, trimmedLines_singleton hfeed, trim_append_right hb.isBlank]

end Text

namespace Document

/-! ## Lines that say nothing -/

theorem addLine_trim (d : Document) (line : List Char) : d.addLine (trim line) = d.addLine line := by
  rw [addLine, trim_trim]
  rfl

/-- **Reading looks at the trimmed lines**, the header included. -/
theorem ofLines_trimmedLines (text : List Char) :
    ofLines (trimmedLines text) = ofLines (splitLines text) := by
  rw [trimmedLines]
  cases splitLines text with
  | nil => rfl
  | cons header body =>
    rw [List.map_cons, ofLines, ofLines, trim_trim, List.foldl_map]
    simp only [addLine_trim]

/-- The line is blank, or a comment with white space in front of it. -/
def SaysNothing (line : List Char) : Prop :=
  ∃ blanks rest, line = blanks ++ rest ∧ (∀ c ∈ blanks, isBlank c = true) ∧
    (rest = [] ∨ ['%', '%'] <+: rest)

theorem isSilent_trim (h : SaysNothing line) : isSilent (trim line) = true := by
  obtain ⟨blanks, rest, rfl, hb, rfl | ⟨comment, rfl⟩⟩ := h
  · rw [trim_append_left hb]
    rfl
  · -- a percent sign is no white space, so trimming stops at either end of the two
    have hstart : trimStart (['%', '%'] ++ comment) = ['%', '%'] ++ comment :=
      dropWhile_eq_self_of_head? fun c hc => by
        obtain rfl : '%' = c := Option.some.inj hc
        decide
    have hend : ∀ c, ['%', '%'].getLast? = some c → isBlank c = false := by
      intro c hc
      obtain rfl : '%' = c := Option.some.inj hc
      decide
    rw [trim_append_left hb, trim, hstart, trimEnd_append hend]
    rfl

/-- **A line that says nothing is passed over** anywhere behind the header. -/
theorem ofLines_append_silent (habove : above ≠ []) (hline : SaysNothing line)
    (below : List (List Char)) : ofLines (above ++ line :: below) = ofLines (above ++ below) := by
  cases above with
  | nil => exact absurd rfl habove
  | cons header body =>
    have hskip : ∀ d : Document, d.addLine line = d := fun d => by
      rw [addLine, if_pos (isSilent_trim hline)]
    rw [List.cons_append, List.cons_append, ofLines, ofLines, List.foldl_append, List.foldl_append,
      List.foldl_cons, hskip]

/-! ## Changes of layout -/

/-- One change of layout. Where the line that changes is not the first one, `before`
ends in the line feed above it, and where it is not the last one, `after` begins with
the line feed at its end. -/
inductive Relaid : String → String → Prop
  /-- A line that says nothing is put below another line. -/
  | silentLine (before line after : String) (hfree : '\n' ∉ line.toList)
      (hline : SaysNothing line.toList) :
      Relaid (before ++ "\n" ++ after) (before ++ "\n" ++ line ++ "\n" ++ after)
  /-- White space is put at the start of a line. -/
  | spaceAtStart (before blanks after : String) (hblanks : IsSpace blanks.toList)
      (hstart : before = "" ∨ ∃ above, before = above ++ "\n") :
      Relaid (before ++ after) (before ++ blanks ++ after)
  /-- White space is put at the end of a line. -/
  | spaceAtEnd (before blanks after : String) (hblanks : IsSpace blanks.toList)
      (hend : after = "" ∨ ∃ below, after = "\n" ++ below) :
      Relaid (before ++ after) (before ++ blanks ++ after)
  /-- A line ending becomes the long one. -/
  | longEnding (before after : String) :
      Relaid (before ++ "\n" ++ after) (before ++ "\r\n" ++ after)
  /-- The last line gets an ending. -/
  | lastEnding (text : String) : Relaid text (text ++ "\n")

/-- The document is known from the trimmed lines. -/
theorem parse_congr {text text' : String}
    (h : trimmedLines text.toList = trimmedLines text'.toList) : parse text = parse text' := by
  rw [parse, parse, ← ofLines_trimmedLines, h, ofLines_trimmedLines]

theorem toList_append_lineFeed (before after : String) :
    (before ++ "\n" ++ after).toList = before.toList ++ '\n' :: after.toList := by
  rw [String.toList_append, String.toList_append, List.append_assoc]
  rfl

/-- **A change of layout keeps the document.** -/
theorem Relaid.parse_eq {text text' : String} (h : Relaid text text') :
    parse text = parse text' := by
  cases h with
  | silentLine before line after hfree hline =>
    rw [parse, parse, toList_append_lineFeed, toList_append_lineFeed, toList_append_lineFeed,
      List.append_assoc, List.cons_append, splitLines_append_lineFeed, splitLines_append_lineFeed,
      splitLines_append hfree, ofLines_append_silent (splitLines_ne_nil _) hline]
  | spaceAtStart before blanks after hblanks hstart =>
    refine parse_congr ?_
    rcases hstart with rfl | ⟨above, rfl⟩
    · rw [String.toList_append, String.toList_append, String.toList_append]
      exact (trimmedLines_append_left hblanks after.toList).symm
    · rw [toList_append_lineFeed, String.append_assoc, toList_append_lineFeed,
        String.toList_append, trimmedLines_append_lineFeed, trimmedLines_append_lineFeed,
        trimmedLines_append_left hblanks]
  | spaceAtEnd before blanks after hblanks hend =>
    refine parse_congr ?_
    rcases hend with rfl | ⟨below, rfl⟩
    · rw [String.append_empty, String.append_empty, String.toList_append,
        trimmedLines_append_right hblanks]
    · rw [← String.append_assoc, ← String.append_assoc, toList_append_lineFeed,
        toList_append_lineFeed, String.toList_append, trimmedLines_append_lineFeed,
        trimmedLines_append_lineFeed, trimmedLines_append_right hblanks]
  | longEnding before after =>
    refine parse_congr ?_
    have hlong : (before ++ "\r\n" ++ after).toList =
        (before.toList ++ ['\r']) ++ '\n' :: after.toList := by
      rw [String.toList_append, String.toList_append, List.append_assoc, List.append_assoc]
      rfl
    have hreturn : IsSpace ['\r'] := isSpace_singleton (by decide) (by decide)
    rw [toList_append_lineFeed, hlong, trimmedLines_append_lineFeed, trimmedLines_append_lineFeed,
      trimmedLines_append_right hreturn]
  | lastEnding text =>
    -- what follows the last line feed is one line more, and that line is empty
    have hlines : splitLines (text ++ "\n").toList = splitLines text.toList ++ [[]] := by
      rw [String.toList_append]
      exact splitLines_append_lineFeed text.toList []
    have hempty : SaysNothing [] := ⟨[], [], rfl, by simp, Or.inl rfl⟩
    rw [parse, parse, hlines, ofLines_append_silent (splitLines_ne_nil _) hempty, List.append_nil]

/-- **Layout does not count**: texts that changes of layout lead to from one another,
in either direction and any number of them, are read as one document. -/
theorem parse_relaid {text text' : String} (h : Relation.EqvGen Relaid text text') :
    parse text = parse text' := by
  induction h with
  | rel _ _ hstep => exact hstep.parse_eq
  | refl _ => rfl
  | symm _ _ _ ih => exact ih.symm
  | trans _ _ _ _ _ ih₁ ih₂ => exact ih₁.trans ih₂

/-- An empty line goes, a comment with an arrow in it comes; the header gets white space
at both ends and another ending, the last line gets an ending. -/
theorem parse_relaid_untidy :
    parse "graph LR\n\nA --> B" = parse "\u00a0graph LR\t\r\n %% C ==> D\nA --> B\n" := by
  have hempty : SaysNothing "".toList := ⟨[], [], rfl, by simp, Or.inl rfl⟩
  have hindent : IsSpace " ".toList := isSpace_singleton (by decide) (by decide)
  have hcomment : SaysNothing " %% C ==> D".toList :=
    ⟨" ".toList, "%% C ==> D".toList, rfl, hindent.isBlank, Or.inr ⟨" C ==> D".toList, rfl⟩⟩
  have hspace : IsSpace "\u00a0".toList := isSpace_singleton (by decide) (by decide)
  have htab : IsSpace "\t".toList := isSpace_singleton (by decide) (by decide)
  have hplain : Relaid "graph LR\nA --> B" "graph LR\n\nA --> B" :=
    .silentLine "graph LR" "" "A --> B" (by decide) hempty
  have hnoted : Relaid "graph LR\nA --> B" "graph LR\n %% C ==> D\nA --> B" :=
    .silentLine "graph LR" " %% C ==> D" "A --> B" (by decide) hcomment
  have hindented : Relaid "graph LR\n %% C ==> D\nA --> B"
      "\u00a0graph LR\n %% C ==> D\nA --> B" :=
    .spaceAtStart "" "\u00a0" "graph LR\n %% C ==> D\nA --> B" hspace (Or.inl rfl)
  have hpadded : Relaid "\u00a0graph LR\n %% C ==> D\nA --> B"
      "\u00a0graph LR\t\n %% C ==> D\nA --> B" :=
    .spaceAtEnd "\u00a0graph LR" "\t" "\n %% C ==> D\nA --> B" htab
      (Or.inr ⟨" %% C ==> D\nA --> B", rfl⟩)
  have hlong : Relaid "\u00a0graph LR\t\n %% C ==> D\nA --> B"
      "\u00a0graph LR\t\r\n %% C ==> D\nA --> B" :=
    .longEnding "\u00a0graph LR\t" " %% C ==> D\nA --> B"
  have hended : Relaid "\u00a0graph LR\t\r\n %% C ==> D\nA --> B"
      "\u00a0graph LR\t\r\n %% C ==> D\nA --> B\n" :=
    .lastEnding _
  refine parse_relaid (.trans _ _ _ (.symm _ _ (.rel _ _ hplain)) ?_)
  refine .trans _ _ _ (.rel _ _ hnoted) (.trans _ _ _ (.rel _ _ hindented) ?_)
  refine .trans _ _ _ (.rel _ _ hpadded) (.trans _ _ _ (.rel _ _ hlong) ?_)
  exact .rel _ _ hended

end Document

end Flowchart
