import MarkdownHighlight.Proofs.Document.Slices
import MarkdownHighlight.Proofs.Markup.Tags
import MarkdownHighlight.Proofs.Token.Lossless

/-!
The markup of a document holds the escaped document and nothing else but tags.
The renderer escapes piece by piece, but every piece ends at a seam, so the
pieces add up to the document escaped as a whole; that goes for the nodes of a
tree, for the parts of a token and for the lines around a slice.
-/

namespace MarkdownHighlight.Markup

/-- Pieces that are cut at seams can be escaped one by one. -/
theorem piecewise_escape (text : Text) : Excerpt.Stretch.Piecewise text escape := by
  refine ⟨rfl, fun e place stretch seam low high => ?_⟩
  obtain ⟨left, right, inside, rfl, seamed⟩ := seam.split stretch.covered low high
  rw [Excerpt.upTo_append inside, Excerpt.startingAt_append inside, inside]
  exact escape_append left right seamed

theorem marks_wrapPart (type : TokenType) (p : Part) (known : p.role.Known) {markup text : Text}
    (marks : Marks markup text) : Marks (wrapPart type p.role markup) text := by
  rw [wrapPart]
  cases found : partClass? type p.role with
  | none => exact marks
  | some classes => exact marks.tagged classes (quoted_partClass type p.role known classes found)

theorem marks_escape (t : Text) : Marks (escape t) (escape t) := .of_plain (escape_plain t)

mutual

theorem marks_renderNode {text : Text} :
    (n : Node) → n.Sound text → Marks (renderNode n) (escape n.source.text)
  | .text source, _ => marks_escape source.text
  | .token t children, sound => by
      obtain ⟨wellCut, below, ⟨inner, found, tiles⟩, _⟩ := sound
      have nested := marks_renderNodes children below
      have sounds := (Node.soundAll_iff ..).mp below
      obtain ⟨inner', _, found', stretch, span⟩ := wellCut.content_stretch
      have same : inner' = inner := Option.some.inj (found'.symm.trans found)
      subst same
      have stop : (t.source.slice inner').span.stop = inner'.stop := congrArg Span.stop span
      have filling : Span.Tiles (t.source.slice inner').start (t.source.slice inner').span.stop
          (children.map (·.span)) := stop ▸ tiles
      rw [Node.flatMap_source (piecewise_escape text) stretch sounds filling] at nested
      have parts : Marks (t.parts.flatMap fun p => wrapPart t.type p.role
          (if p.role = .content && !children.isEmpty then renderNodes children
            else escape (t.partText p)))
          (t.parts.flatMap fun p => escape (t.source.slice p.span).text) := by
        apply Marks.flatMap
        intro p member
        apply marks_wrapPart t.type p (wellCut.known p member)
        -- The content shows the nodes below when there are any, every other part its text.
        split
        · rename_i filled
          rw [Bool.and_eq_true, decide_eq_true_eq] at filled
          have own := wellCut.contentSpan?_of_role p member filled.1
          rw [Option.some.inj (own.symm.trans found)]
          exact nested
        · exact marks_escape (t.partText p)
      have whole : (t.parts.flatMap fun p => escape (t.source.slice p.span).text) =
          escape t.source.text := by
        have pieces := Excerpt.Stretch.flatMap_slices (piecewise_escape text) _ wellCut.stretch
          wellCut.tiles fun s member => by
            obtain ⟨p, inside, rfl⟩ := List.mem_map.mp member
            exact wellCut.seams p inside
        rwa [List.flatMap_map] at pieces
      rw [whole] at parts
      exact parts.tagged _ (quoted_tokenClasses t.kind)

theorem marks_renderNodes {text : Text} :
    (nodes : List Node) → Node.SoundAll text nodes →
      Marks (renderNodes nodes) (nodes.flatMap fun n => escape n.source.text)
  | [], _ => .nil
  | n :: later, sound => (marks_renderNode n sound.1).append (marks_renderNodes later sound.2)

end

theorem render_marks (text : Text) (fresh : isRendered text = false) :
    ∃ markup, render text = .ok markup ∧ Marks markup (escape text) := by
  obtain ⟨nodes, made, sound, tiles, _⟩ :=
    tokenizeWith_sound Grammar.markdown Grammar.markdown_lawful text
  refine ⟨renderNodes nodes, ?_, ?_⟩
  · rw [render, renderWith, fresh, made]
    rfl
  · have stop : text.whole.stop = text.size := by simp [Excerpt.stop, Text.whole]
    have marks := marks_renderNodes nodes ((Node.soundAll_iff ..).mpr sound)
    rwa [Node.flatMap_source (piecewise_escape text) text.whole_stretch sound
      (by rw [stop]; exact tiles)] at marks

theorem escape_lines_plain (before after : List Text) :
    Marks (linesBefore escape before) (linesBefore escape before) ∧
      Marks (linesAfter escape after) (linesAfter escape after) := by
  have newline : Marks [Text.newline] [Text.newline] := .of_plain (by decide)
  exact ⟨.flatMap _ _ _ fun line _ => (marks_escape line).append newline,
    .flatMap _ _ _ fun line _ => newline.append (marks_escape line)⟩

theorem renderDocument_marks (n : Narrowing) (text : Text) (viewport? : Option Viewport)
    (fresh : isRendered text = false) :
    ∃ markup, renderDocument n text viewport? = .ok markup ∧ Marks markup (escape text) := by
  rw [renderDocument, renderDocumentWith, fresh]
  simp only [Bool.false_eq_true, if_false]
  split
  · exact render_marks text fresh
  · have whole := n.text_eq text viewport?
    generalize n.select text.lines viewport? = slice at whole ⊢
    generalize text.lines.take slice.start = ahead at whole ⊢
    generalize text.lines.drop (slice.stop + 1) = behind at whole ⊢
    -- What is missing from the document is missing from the slice.
    have freshSlice : isRendered slice.content = false :=
      Text.occursIn_of_infix _ ⟨_, _, whole.symm⟩ fresh
    obtain ⟨middle, made, marks⟩ := render_marks slice.content freshSlice
    obtain ⟨before, after⟩ := escape_lines_plain ahead behind
    rw [render] at made
    refine ⟨_, by rw [made]; rfl, ?_⟩
    rw [whole, escape_around]
    exact (before.append marks).append after

/-- Rendering adds tags that pair up and nothing else: without them the markup of
a text is the text escaped as a whole, and so is that of a document in any viewport. -/
theorem deleteTags_rendered (n : Narrowing) (text : Text) (viewport? : Option Viewport)
    (fresh : isRendered text = false) :
    (∃ markup, render text = .ok markup ∧ Balanced markup ∧ deleteTags markup = escape text) ∧
      ∃ markup, renderDocument n text viewport? = .ok markup ∧ Balanced markup ∧
        deleteTags markup = escape text := by
  obtain ⟨plain, rendered, marks⟩ := render_marks text fresh
  obtain ⟨narrowed, rendered', marks'⟩ := renderDocument_marks n text viewport? fresh
  exact ⟨⟨plain, rendered, marks.balanced, marks.deleted⟩,
    narrowed, rendered', marks'.balanced, marks'.deleted⟩

theorem deleteTags_rendered_inverted :
    let text := "*R&amp;D*\n<b>\n**&**lt;".toList
    isRendered text = false ∧
      (∃ markup, render text = .ok markup ∧ Balanced markup ∧ deleteTags markup = escape text) ∧
      ∃ markup, renderDocument ⟨0, 0⟩ text (some ⟨1, 0⟩) = .ok markup ∧ Balanced markup ∧
        deleteTags markup = escape text :=
  ⟨by decide, deleteTags_rendered ⟨0, 0⟩ _ (some ⟨1, 0⟩) (by decide)⟩

end MarkdownHighlight.Markup
