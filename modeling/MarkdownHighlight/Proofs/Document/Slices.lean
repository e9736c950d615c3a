import MarkdownHighlight.Document.Highlight
import MarkdownHighlight.Proofs.Markup.Seam
import MarkdownHighlight.Proofs.Text.Lines

/-!
The lines that are selected from a document. Whatever the viewport, they are
neighbouring lines, at least one of them; with the lines before and after they
make up the document, also when each side is escaped on its own.
-/

namespace MarkdownHighlight

open Text

def LineSlice.reach (slice : LineSlice) (lines : List Text) : List Text :=
  (lines.drop slice.start).take (slice.stop + 1 - slice.start)

structure LineSlice.Within (slice : LineSlice) (lines : List Text) : Prop where
  order : slice.start ≤ slice.stop
  bound : slice.stop < lines.length
  content : slice.content = joinLines (slice.reach lines)

theorem Narrowing.select_within (n : Narrowing) (lines : List Text) (viewport? : Option Viewport)
    (some : lines ≠ []) : (n.select lines viewport?).Within lines := by
  have length := List.length_pos_iff.mpr some
  have whole : LineSlice.Within ⟨joinLines lines, 0, lines.length - 1⟩ lines := by
    refine ⟨Nat.zero_le _, by simp only; omega, ?_⟩
    rw [LineSlice.reach, List.drop_zero, List.take_of_length_le (by simp only; omega)]
  cases viewport? with
  | none => exact whole
  | some v =>
      simp only [select]
      split
      · exact whole
      · exact ⟨Nat.min_le_right .., by simp only; omega, rfl⟩

theorem LineSlice.reach_around {slice : LineSlice} {before middle after : List Text}
    (start : before.length = slice.start) (stop : middle.length = slice.stop + 1 - slice.start) :
    slice.reach (before ++ middle ++ after) = middle := by
  rw [reach, ← start, List.append_assoc, List.drop_left, start, ← stop, List.take_left]

theorem LineSlice.Within.around {slice : LineSlice} {lines : List Text}
    (within : slice.Within lines) :
    ∃ before middle after, lines = before ++ middle ++ after ∧ middle ≠ [] ∧
      before.length = slice.start ∧ middle.length = slice.stop + 1 - slice.start ∧
      slice.content = joinLines middle ∧ lines.take slice.start = before ∧
      lines.take (slice.stop + 1) = before ++ middle ∧ lines.drop (slice.stop + 1) = after := by
  have order := within.order
  have bound := within.bound
  have start : (lines.take slice.start).length = slice.start := by
    rw [List.length_take]
    omega
  have stop : (slice.reach lines).length = slice.stop + 1 - slice.start := by
    rw [reach, List.length_take, List.length_drop]
    omega
  have upTo : lines.take (slice.stop + 1) = lines.take slice.start ++ slice.reach lines := by
    have length : slice.stop + 1 = slice.start + (slice.stop + 1 - slice.start) := by omega
    rw [length, List.take_add]
    rfl
  refine ⟨_, slice.reach lines, _, ?_, ?_, start, stop, within.content, rfl, upTo, rfl⟩
  · rw [← upTo, List.take_append_drop]
  · rw [← List.length_pos_iff]
    omega

theorem joinLines_around (before middle after : List Text) (some : middle ≠ []) :
    joinLines (before ++ middle ++ after) =
      linesBefore id before ++ joinLines middle ++ linesAfter id after := by
  -- The lines after the slice first, then those before it are put in front.
  have tail : joinLines (middle ++ after) = joinLines middle ++ linesAfter id after := by
    clear before
    induction after generalizing middle with
    | nil => simp [linesAfter]
    | cons line later ih =>
        have shifted := ih (middle ++ [line]) (by simp)
        rw [List.append_assoc, List.singleton_append] at shifted
        rw [shifted, joinLines_append _ _ some (by simp), joinLines_singleton]
        simp [linesAfter]
  induction before with
  | nil => simpa [linesBefore] using tail
  | cons line later ih =>
      rw [List.cons_append, List.cons_append, joinLines_cons _ _ (by simp [some]), ih]
      simp [linesBefore]

theorem linesBefore_eq {lines : List Text} (some : lines ≠ []) :
    linesBefore id lines = joinLines lines ++ [newline] := by
  have around := joinLines_around lines [[]] [] (by simp)
  rw [List.append_nil, joinLines_append lines [[]] some (by simp), joinLines_singleton] at around
  simpa [linesAfter] using around.symm

namespace Markup

theorem escape_newline (a b : Text) :
    escape (a ++ newline :: b) = escape a ++ newline :: escape b := by
  have closed : continuesReference newline = false := by decide
  have seamed : seam a.getLast? (newline :: b).head? = true := by simp [seam, closed]
  rw [escape_append a _ seamed]
  rfl

theorem escape_linesBefore (lines : List Text) (rest : Text) :
    escape (linesBefore id lines ++ rest) = linesBefore escape lines ++ escape rest := by
  induction lines with
  | nil => rfl
  | cons line later ih =>
      have shape : linesBefore id (line :: later) ++ rest =
          line ++ newline :: (linesBefore id later ++ rest) := by simp [linesBefore]
      rw [shape, escape_newline, ih]
      simp [linesBefore]

theorem escape_linesAfter (lines : List Text) (lead : Text) :
    escape (lead ++ linesAfter id lines) = escape lead ++ linesAfter escape lines := by
  induction lines generalizing lead with
  | nil => simp [linesAfter]
  | cons line later ih =>
      have shape : lead ++ linesAfter id (line :: later) =
          lead ++ newline :: (line ++ linesAfter id later) := by simp [linesAfter]
      rw [shape, escape_newline, ih]
      simp [linesAfter]

theorem escape_around (before after : List Text) (content : Text) :
    escape (linesBefore id before ++ content ++ linesAfter id after) =
      linesBefore escape before ++ escape content ++ linesAfter escape after := by
  rw [List.append_assoc, escape_linesBefore, escape_linesAfter, List.append_assoc]

end Markup

theorem Narrowing.text_eq (n : Narrowing) (text : Text) (viewport? : Option Viewport) :
    text = linesBefore id (text.lines.take (n.select text.lines viewport?).start) ++
      (n.select text.lines viewport?).content ++
      linesAfter id (text.lines.drop ((n.select text.lines viewport?).stop + 1)) := by
  have within := n.select_within text.lines viewport? (lines_ne_nil text)
  obtain ⟨before, middle, after, split, some, _, _, content, front, _, back⟩ := within.around
  rw [front, back, content, ← joinLines_around _ _ _ some, ← split, joinLines_lines]

end MarkdownHighlight
