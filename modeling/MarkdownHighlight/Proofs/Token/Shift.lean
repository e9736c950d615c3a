import MarkdownHighlight.Markup.Render
import MarkdownHighlight.Proofs.Text.Shift
import MarkdownHighlight.Proofs.Token.Forest

/-!
Tokens and trees of a text that stands behind another one. Nesting and the
building of trees only compare places, and the markup only shows the text, so
the former move along and the latter stays the same.
-/

namespace MarkdownHighlight

def Part.shift (n : Nat) (p : Part) : Part := ⟨p.role, p.span.shift n⟩

namespace Token

def shift (n : Nat) (t : Token) : Token := ⟨t.kind, t.source.shift n, t.parts.map (Part.shift n)⟩

@[simp] theorem shift_kind (n : Nat) (t : Token) : (t.shift n).kind = t.kind := rfl

@[simp] theorem shift_type (n : Nat) (t : Token) : (t.shift n).type = t.type := rfl

@[simp] theorem shift_parts (n : Nat) (t : Token) :
    (t.shift n).parts = t.parts.map (Part.shift n) := rfl

@[simp] theorem shift_span (n : Nat) (t : Token) : (t.shift n).span = t.span.shift n :=
  Excerpt.shift_span n t.source

theorem map_shift_nil (ts : List Token) : ts.map (shift (Text.size [])) = ts := by
  have part : ∀ p : Part, p.shift 0 = p := fun p => by simp [Part.shift, Span.shift]
  have token : ∀ t : Token, t.shift 0 = t := fun t => by
    simp [shift, Excerpt.shift, List.map_congr_left fun p _ => part p]
  exact (List.map_congr_left fun t _ => token t).trans (List.map_id' _)

theorem contentSpan?_shift (n : Nat) (t : Token) :
    (t.shift n).contentSpan? = t.contentSpan?.map (Span.shift n) := by
  simp only [contentSpan?, shift, List.find?_map, Option.map_map]
  rfl

theorem content?_shift (n : Nat) (t : Token) :
    (t.shift n).content? = t.content?.map (Excerpt.shift n) := by
  rw [content?, content?, contentSpan?_shift]
  cases t.contentSpan? with
  | none => rfl
  | some inner => exact congrArg some (Excerpt.slice_shift n t.source inner)

theorem partText_shift (n : Nat) (t : Token) (p : Part) :
    (t.shift n).partText (p.shift n) = t.partText p := by
  simp only [partText, shift, Part.shift, Excerpt.slice_shift, Excerpt.shift_text]

theorem nestsWith_shift (n : Nat) (a b : Token) :
    (a.shift n).nestsWith (b.shift n) = a.nestsWith b := by
  have held : ∀ (outer inner : Token),
      (outer.shift n).contentSpan?.any (·.contains (inner.span.shift n)) =
        outer.contentSpan?.any (·.contains inner.span) := by
    intro outer inner
    rw [contentSpan?_shift]
    cases outer.contentSpan? with
    | none => rfl
    | some content => exact Span.contains_shift n content inner.span
  simp only [nestsWith, shift_type, shift_span, held, Span.disjoint_shift, Span.shift_bne]

theorem nestsWith_of_disjoint {a b : Token} (apart : a.span.disjoint b.span = true) :
    a.nestsWith b = true := by
  rw [nestsWith, apart, Bool.true_or]

end Token

namespace Node

mutual

def shift (n : Nat) : Node → Node
  | .text source => .text (source.shift n)
  | .token t children => .token (t.shift n) (shiftAll n children)

def shiftAll (n : Nat) : List Node → List Node
  | [] => []
  | node :: later => node.shift n :: shiftAll n later

end

theorem shiftAll_eq_map (n : Nat) (nodes : List Node) : shiftAll n nodes = nodes.map (shift n) := by
  induction nodes with
  | nil => rfl
  | cons node later ih => rw [shiftAll, ih, List.map_cons]

@[simp] theorem shift_span (n : Nat) (node : Node) : (node.shift n).span = node.span.shift n := by
  cases node with
  | text source => exact Excerpt.shift_span n source
  | token t children => exact Token.shift_span n t

theorem fillGaps_shift (n : Nat) (region : Excerpt) (nodes : List Node) :
    fillGaps (region.shift n) (shiftAll n nodes) = shiftAll n (fillGaps region nodes) := by
  induction nodes generalizing region with
  | nil =>
      rw [shiftAll, fillGaps, fillGaps, Excerpt.shift_isEmpty]
      split <;> rfl
  | cons node later ih =>
      simp only [shiftAll, fillGaps, shift_span, Span.shift_start, Span.shift_stop,
        Excerpt.upTo_shift, Excerpt.startingAt_shift, Excerpt.shift_isEmpty, ih]
      split <;> rfl

theorem place_shift (n : Nat) (t : Token) (nodes : List Node) :
    place (t.shift n) (shiftAll n nodes) = shiftAll n (place t nodes) := by
  have cut : ((shiftAll n nodes).span fun node => (t.shift n).span.contains node.span) =
      (shiftAll n (nodes.span fun node => t.span.contains node.span).1,
        shiftAll n (nodes.span fun node => t.span.contains node.span).2) := by
    -- Being inside a token is a matter of places, and all of them move by the same amount.
    have same : (fun node : Node => (t.shift n).span.contains node.span) ∘ shift n =
        fun node => t.span.contains node.span := by
      funext node
      simp [Span.contains_shift]
    simp only [shiftAll_eq_map, List.span_eq_takeWhile_dropWhile, List.takeWhile_map,
      List.dropWhile_map, same]
  rw [place, place, cut, Token.content?_shift]
  simp only [shiftAll]
  cases t.content? with
  | none => rfl
  | some region => simp only [Option.map_some, fillGaps_shift, shift]

theorem nest_shift (n : Nat) (tokens : List Token) :
    nest (tokens.map (Token.shift n)) = shiftAll n (nest tokens) := by
  induction tokens with
  | nil => rfl
  | cons t later ih => exact (congrArg (place (t.shift n)) ih).trans (place_shift n t (nest later))

end Node

namespace Markup

mutual

theorem renderNode_shift (n : Nat) (node : Node) : renderNode (node.shift n) = renderNode node := by
  cases node with
  | text source => rfl
  | token t children =>
      have nested := renderNodes_shift n children
      have empty : (Node.shiftAll n children).isEmpty = children.isEmpty := by
        cases children <;> rfl
      simp only [Node.shift, renderNode, nested, empty, Token.shift_kind, Token.shift_type,
        Token.shift_parts, List.flatMap_map, Token.partText_shift]
      rfl

theorem renderNodes_shift (n : Nat) (nodes : List Node) :
    renderNodes (Node.shiftAll n nodes) = renderNodes nodes := by
  cases nodes with
  | nil => rfl
  | cons node later =>
      rw [Node.shiftAll, renderNodes, renderNodes, renderNode_shift n node,
        renderNodes_shift n later]

end

end Markup

end MarkdownHighlight
