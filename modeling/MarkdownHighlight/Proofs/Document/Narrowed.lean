import MarkdownHighlight.Proofs.Markup.Faithful
import MarkdownHighlight.Proofs.Markup.Joined

/-!
A narrowed document against the whole one. The lines before and after a slice
can be taken off one side at a time, since rendering goes line by line wherever
no code block reaches over the end of a line; what is left is the slice, with
the markup that its lines have in the whole document.
-/

namespace MarkdownHighlight

open Text (newline joinLines lines)

def Text.lineEnd (text : Text) (count : Nat) : Nat := (joinLines (text.lines.take count)).size

/-- Lines before and lines after a place, with no code block over the newline between them. -/
structure LinesApart (before after : List Text) : Prop where
  clean : ∀ line ∈ before ++ after, newline ∉ line
  outside : before ≠ [] → after ≠ [] →
    OutsideCode (joinLines (before ++ after)) (joinLines before).size

namespace Markup

theorem render_total {text : Text} (fresh : isRendered text = false) :
    ∃ markup, render text = .ok markup ∧ markup.lines.length = text.lines.length := by
  obtain ⟨markup, rendered, marks⟩ := render_marks text fresh
  exact ⟨markup, rendered, marks.length_lines⟩

theorem render_lines (before after : List Text) (some : before ++ after ≠ [])
    (fresh : isRendered (joinLines (before ++ after)) = false) (apart : LinesApart before after) :
    ∃ whole first second, render (joinLines (before ++ after)) = .ok whole ∧
      whole.lines = first ++ second ∧ first.length = before.length ∧
      (before ≠ [] → ∃ part, render (joinLines before) = .ok part ∧ part.lines = first) ∧
      (after ≠ [] → ∃ part, render (joinLines after) = .ok part ∧ part.lines = second) := by
  obtain ⟨whole, rendered, length⟩ := render_total fresh
  rw [Text.lines_joinLines _ some apart.clean] at length
  by_cases nothing : before = []
  · subst nothing
    exact ⟨whole, [], whole.lines, rendered, rfl, rfl, absurd rfl, fun _ => ⟨whole, rendered, rfl⟩⟩
  · by_cases last : after = []
    · subst last
      rw [List.append_nil] at rendered length ⊢
      exact ⟨whole, whole.lines, [], rendered, (List.append_nil _).symm, length,
        fun _ => ⟨whole, rendered, rfl⟩, absurd rfl⟩
    · have outside := apart.outside nothing last
      rw [Text.joinLines_append before after nothing last] at fresh outside ⊢
      obtain ⟨first, second, left, right, joined⟩ := render_joined fresh outside
      have freshBefore : isRendered (joinLines before) = false :=
        Text.occursIn_of_infix _ (List.infix_append [] _ _) fresh
      obtain ⟨first', left', width⟩ := render_total freshBefore
      rw [← Except.ok.inj (left.symm.trans left'), Text.lines_joinLines _ nothing fun line inside =>
        apart.clean line (List.mem_append_left _ inside)] at width
      exact ⟨_, first.lines, second.lines, joined, Text.lines_append first second, width,
        fun _ => ⟨first, left, rfl⟩, fun _ => ⟨second, right, rfl⟩⟩

theorem render_middle (before middle after : List Text) (some : middle ≠ [])
    (fresh : isRendered (joinLines (before ++ middle ++ after)) = false)
    (front : LinesApart before (middle ++ after)) (back : LinesApart (before ++ middle) after) :
    ∃ whole part lead trail, render (joinLines (before ++ middle ++ after)) = .ok whole ∧
      render (joinLines middle) = .ok part ∧ whole.lines = lead ++ part.lines ++ trail ∧
      lead.length = before.length ∧ part.lines.length = middle.length := by
  have someAfter : middle ++ after ≠ [] := by simp [some]
  have cleanAfter : ∀ line ∈ middle ++ after, newline ∉ line := fun line inside =>
    front.clean line (List.mem_append_right _ inside)
  -- The code blocks of the whole text are those of the lines before and of the rest, so
  -- what does not reach over the end of the middle lines there does not in the rest either.
  have inner : LinesApart middle after := by
    refine ⟨cleanAfter, fun _ last => ?_⟩
    have across := front.outside
    have outside := back.outside (by simp [some]) last
    rw [List.append_assoc] at outside
    by_cases nothing : before = []
    · subst nothing
      exact outside
    · have across := across nothing someAfter
      rw [Text.joinLines_append _ _ nothing someAfter] at across outside
      rw [Text.joinLines_append _ _ nothing some] at outside
      apply across.of_joined
      simpa [Text.size, Nat.add_assoc] using outside
  rw [List.append_assoc] at fresh ⊢
  obtain ⟨whole, lead, rest, rendered, split, width, _, behind⟩ :=
    render_lines before (middle ++ after) (by simp [some]) fresh front
  obtain ⟨tail, renderedTail, rfl⟩ := behind someAfter
  have freshTail : isRendered (joinLines (middle ++ after)) = false := by
    refine Text.occursIn_of_infix _ ?_ fresh
    by_cases nothing : before = []
    · rw [nothing]
      exact List.infix_rfl
    · rw [Text.joinLines_append _ _ nothing someAfter]
      exact ⟨joinLines before ++ [newline], [], by simp⟩
  obtain ⟨tail', inside, trail, renderedTail', split', width', here, _⟩ :=
    render_lines middle after someAfter freshTail inner
  obtain ⟨part, renderedPart, rfl⟩ := here some
  rw [Except.ok.inj (renderedTail'.symm.trans renderedTail)] at split'
  rw [split', ← List.append_assoc] at split
  exact ⟨whole, part, lead, trail, rendered, renderedPart, split, width, width'⟩

theorem lines_linesBefore (before : List Text) (clean : ∀ line ∈ before, newline ∉ line)
    (rest : Text) :
    (linesBefore escape before ++ rest).lines = before.map escape ++ rest.lines := by
  induction before with
  | nil => rfl
  | cons line later ih =>
      obtain ⟨here, there⟩ := List.forall_mem_cons.mp clean
      have shape : linesBefore escape (line :: later) ++ rest =
          escape line ++ newline :: (linesBefore escape later ++ rest) := by simp [linesBefore]
      rw [shape, Text.lines_append, ih there,
        Text.lines_of_line _ (newline_not_mem_escape line here)]
      rfl

theorem lines_linesAfter (after : List Text) (clean : ∀ line ∈ after, newline ∉ line)
    (lead : Text) : (lead ++ linesAfter escape after).lines = lead.lines ++ after.map escape := by
  induction after generalizing lead with
  | nil => simp [linesAfter]
  | cons line later ih =>
      obtain ⟨here, there⟩ := List.forall_mem_cons.mp clean
      have shape : lead ++ linesAfter escape (line :: later) =
          (lead ++ newline :: escape line) ++ linesAfter escape later := by simp [linesAfter]
      rw [shape, ih there, Text.lines_append,
        Text.lines_of_line _ (newline_not_mem_escape line here)]
      simp

theorem lines_around (before after : List Text)
    (cleanBefore : ∀ line ∈ before, newline ∉ line) (cleanAfter : ∀ line ∈ after, newline ∉ line)
    (part : Text) : (linesBefore escape before ++ part ++ linesAfter escape after).lines =
      before.map escape ++ part.lines ++ after.map escape := by
  rw [List.append_assoc, lines_linesBefore before cleanBefore, lines_linesAfter after cleanAfter,
    List.append_assoc]

/-- A slice that no code block reaches into or out of has its lines apart from those around it. -/
theorem linesApart_of_within {slice : LineSlice} {text : Text} (within : slice.Within text.lines)
    (front : 0 < slice.start → OutsideCode text (text.lineEnd slice.start))
    (back : slice.stop + 1 < text.lines.length →
      OutsideCode text (text.lineEnd (slice.stop + 1))) :
    ∃ before middle after, joinLines (before ++ middle ++ after) = text ∧ middle ≠ [] ∧
      before.length = slice.start ∧ middle.length = slice.stop + 1 - slice.start ∧
      slice.content = joinLines middle ∧ text.lines.take slice.start = before ∧
      text.lines.drop (slice.stop + 1) = after ∧
      LinesApart before (middle ++ after) ∧ LinesApart (before ++ middle) after := by
  obtain ⟨before, middle, after, split, some, start, stop, content, takeStart, takeStop,
    dropStop⟩ := within.around
  have joined : joinLines (before ++ middle ++ after) = text := by
    rw [← split, Text.joinLines_lines]
  have clean : ∀ line ∈ before ++ middle ++ after, newline ∉ line :=
    split ▸ Text.newline_not_mem_of_mem_lines text
  refine ⟨before, middle, after, joined, some, start, stop, content, takeStart, dropStop, ?_, ?_⟩
  · constructor
    · rwa [← List.append_assoc]
    · intro nonempty _
      rw [← List.append_assoc, joined, ← takeStart]
      apply front
      rw [← start]
      exact List.length_pos_iff.mpr nonempty
  · constructor
    · exact clean
    · intro _ nonempty
      rw [joined, ← takeStop]
      apply back
      apply Nat.lt_of_not_le
      intro ended
      exact nonempty (by rw [← dropStop, List.drop_eq_nil_of_le ended])

/-- The lines of a slice have the markup that they have in the whole document. -/
theorem renderDocument_lines (n : Narrowing) (text : Text) (viewport? : Option Viewport)
    (front : 0 < (n.select text.lines viewport?).start →
      OutsideCode text (text.lineEnd (n.select text.lines viewport?).start))
    (back : (n.select text.lines viewport?).stop + 1 < text.lines.length →
      OutsideCode text (text.lineEnd ((n.select text.lines viewport?).stop + 1))) :
    ∃ whole narrowed, render text = .ok whole ∧ renderDocument n text viewport? = .ok narrowed ∧
      (n.select text.lines viewport?).reach narrowed.lines =
        (n.select text.lines viewport?).reach whole.lines ∧
      (isRendered text = false → render (n.select text.lines viewport?).content =
        .ok (joinLines ((n.select text.lines viewport?).reach whole.lines))) := by
  cases fresh : isRendered text with
  | true =>
      have kept : render text = .ok text := by rw [render, renderWith, if_pos fresh]
      refine ⟨text, text, kept, ?_, rfl, fun stale => by cases stale⟩
      rw [renderDocument, renderDocumentWith, if_pos fresh, renderWith, if_pos fresh]
  | false =>
      have within := n.select_within text.lines viewport? (Text.lines_ne_nil text)
      rw [renderDocument, renderDocumentWith, fresh]
      simp only [Bool.false_eq_true, if_false]
      generalize n.select text.lines viewport? = slice at front back within ⊢
      obtain ⟨before, middle, after, joined, some, start, stop, content, takeStart, dropStop,
        apartFront, apartBack⟩ := linesApart_of_within within front back
      obtain ⟨whole, part, lead, trail, rendered, renderedPart, linesWhole, lengthLead,
        lengthPart⟩ :=
        render_middle before middle after some (joined ▸ fresh) apartFront apartBack
      rw [joined] at rendered
      have reach : slice.reach whole.lines = part.lines := by
        rw [linesWhole, slice.reach_around (lengthLead.trans start) (lengthPart.trans stop)]
      have narrow : render (joinLines middle) = .ok (joinLines (slice.reach whole.lines)) := by
        rw [reach, Text.joinLines_lines, renderedPart]
      rw [content, takeStart, dropStop]
      -- A slice that is the whole document is rendered as such, any other between escaped lines.
      split
      · exact ⟨whole, whole, rendered, rendered, rfl, fun _ => narrow⟩
      · refine ⟨whole, linesBefore escape before ++ part ++ linesAfter escape after, rendered,
          ?_, ?_, fun _ => narrow⟩
        · rw [render] at renderedPart
          rw [renderedPart]
          rfl
        · have cleanBefore : ∀ line ∈ before, newline ∉ line := fun line inside =>
            apartFront.clean line (List.mem_append_left _ inside)
          have cleanAfter : ∀ line ∈ after, newline ∉ line := fun line inside =>
            apartBack.clean line (List.mem_append_right _ inside)
          rw [reach, lines_around before after cleanBefore cleanAfter]
          exact slice.reach_around (by rw [List.length_map, start]) (lengthPart.trans stop)

/-- Narrowing does not change the markup of the lines it keeps: texts that are
joined where no code block reaches over the newline are rendered one by one, and
so a slice that no code block reaches into or out of has in the narrowed document
the lines of markup that it has in the whole one. -/
theorem narrowing_keeps_markup :
    (∀ a b : Text, isRendered (a ++ newline :: b) = false →
      OutsideCode (a ++ newline :: b) a.size →
      ∃ first second, render a = .ok first ∧ render b = .ok second ∧
        render (a ++ newline :: b) = .ok (first ++ newline :: second)) ∧
      ∀ (n : Narrowing) (text : Text) (viewport? : Option Viewport),
        let slice := n.select text.lines viewport?
        (0 < slice.start → OutsideCode text (text.lineEnd slice.start)) →
        (slice.stop + 1 < text.lines.length → OutsideCode text (text.lineEnd (slice.stop + 1))) →
        ∃ whole narrowed, render text = .ok whole ∧ renderDocument n text viewport? = .ok narrowed ∧
          slice.reach narrowed.lines = slice.reach whole.lines ∧
          (isRendered text = false →
            render slice.content = .ok (joinLines (slice.reach whole.lines))) :=
  ⟨fun _ _ fresh outside => render_joined fresh outside,
    fun n text viewport? front back => renderDocument_lines n text viewport? front back⟩

theorem narrowing_keeps_markup_fenced :
    let text : Text := "```\n*a*\n```\n*b*\n> c".toList
    let slice := (⟨0, 0⟩ : Narrowing).select text.lines (some ⟨3, 3⟩)
    (∃ first second, render "```\n*a*\n```".toList = .ok first ∧
        render "*b*\n> c".toList = .ok second ∧ render text = .ok (first ++ newline :: second)) ∧
      ∃ whole narrowed, render text = .ok whole ∧
        renderDocument ⟨0, 0⟩ text (some ⟨3, 3⟩) = .ok narrowed ∧
        slice.reach narrowed.lines = slice.reach whole.lines ∧
        (isRendered text = false →
          render slice.content = .ok (joinLines (slice.reach whole.lines))) :=
  ⟨narrowing_keeps_markup.1 "```\n*a*\n```".toList "*b*\n> c".toList (by decide)
      (by decide +kernel),
    narrowing_keeps_markup.2 ⟨0, 0⟩ "```\n*a*\n```\n*b*\n> c".toList (some ⟨3, 3⟩)
      (fun _ => by decide +kernel) fun _ => by decide +kernel⟩

end Markup

end MarkdownHighlight
