import MarkdownHighlight.Grammar.Markdown
import MarkdownHighlight.Proofs.Token.Shift

/-!
Extractions read the same off groups that stand further on in a text: the token
moves along with them. An extraction is a chain of steps that may fail, so the
statement is made for one step and for a chain of two.
-/

namespace MarkdownHighlight

/-- What the first computation gives is given by the second, moved along. -/
def Follows {α : Type} (move : α → α) (x y : Except HighlightError α) : Prop :=
  ∀ a, x = .ok a → y = .ok (move a)

namespace Follows

variable {α β : Type} {move : α → α} {move' : β → β}

theorem of_ok (a : α) : Follows move (pure a) (pure (move a)) := by
  intro b same
  rw [Except.ok.inj same]
  rfl

theorem of_error (e e' : HighlightError) :
    Follows move (throw e : Except HighlightError α) (throw e') := nofun

theorem bind {x y : Except HighlightError α} {f g : α → Except HighlightError β}
    (first : Follows move x y) (later : ∀ a, Follows move' (f a) (g (move a))) :
    Follows move' (x >>= f) (y >>= g) := by
  intro b ran
  cases result : x with
  | error e =>
      rw [result] at ran
      cases ran
  | ok a =>
      rw [result] at ran
      rw [first a result]
      exact later a b ran

end Follows

namespace Captures

def shift (n : Nat) (c : Captures) : Captures :=
  ⟨c.groups.map fun (index, e) => (index, e.shift n)⟩

theorem group?_shift (n : Nat) (c : Captures) (index : Nat) :
    (c.shift n).group? index = (c.group? index).map (Excerpt.shift n) := by
  obtain ⟨groups⟩ := c
  induction groups with
  | nil => rfl
  | cons group later ih =>
      obtain ⟨number, e⟩ := group
      simp only [group?, shift, List.map_cons, List.lookup_cons] at ih ⊢
      cases index == number with
      | true => rfl
      | false => exact ih

theorem firstOf?_shift (n : Nat) (c : Captures) (indices : List Nat) :
    (c.shift n).firstOf? indices = (c.firstOf? indices).map (Excerpt.shift n) := by
  rw [firstOf?, firstOf?, List.map_findSome?]
  congr 1
  funext index
  exact group?_shift n c index

theorem require_shift (n : Nat) (c : Captures) (name : String) (index : Nat) :
    Follows (Excerpt.shift n) (c.require name index) ((c.shift n).require name index) := by
  rw [require, require, group?_shift]
  cases c.group? index with
  | none => exact Follows.of_error _ _
  | some e => exact Follows.of_ok e

theorem requireFirst_shift (n : Nat) (c : Captures) (name : String) (indices : List Nat)
    (cause : Mismatch) : Follows (Excerpt.shift n) (c.requireFirst name indices cause)
      ((c.shift n).requireFirst name indices cause) := by
  rw [requireFirst, requireFirst, firstOf?_shift]
  cases c.firstOf? indices with
  | none => exact Follows.of_error _ _
  | some e => exact Follows.of_ok e

end Captures

def Cut.shift (n : Nat) (c : Cut) : Cut := ⟨c.role, n + c.stop⟩

namespace Part

theorem ofCut_shift (n start : Nat) (c : Cut) :
    ofCut (n + start) (c.shift n) = (ofCut start c).map (Part.shift n) := by
  simp only [ofCut, Cut.shift, Nat.add_lt_add_iff_left]
  split <;> rfl

theorem tileWithin_shift (n limit start : Nat) (cuts : List Cut) :
    tileWithin (n + limit) (n + start) (cuts.map (Cut.shift n)) =
      (tileWithin limit start cuts).map (List.map (Part.shift n)) := by
  induction cuts generalizing start with
  | nil => rfl
  | cons c later ih =>
      -- A cut goes backwards or too far just when it did so before it was moved.
      have same : ((c.shift n).stop < n + start || n + limit < (c.shift n).stop) =
          (c.stop < start || limit < c.stop) := by simp [Cut.shift]
      rw [List.map_cons, tileWithin, tileWithin, same, ofCut_shift]
      split
      · rfl
      · change (tileWithin (n + limit) (n + c.stop) (later.map (Cut.shift n))).map _ = _
        rw [ih, Option.map_map, Option.map_map]
        congr 1
        funext parts
        simp

theorem tile_shift (n : Nat) (name : String) (whole : Excerpt) (cuts cuts' : List Cut)
    (tail : Role) (same : cuts' = cuts.map (Cut.shift n)) :
    Follows (List.map (Part.shift n)) (tile name whole.span cuts tail)
      (tile name (whole.shift n).span cuts' tail) := by
  have tiled := tileWithin_shift n whole.span.stop whole.span.start (cuts ++ [⟨tail, whole.stop⟩])
  rw [List.map_append, ← same] at tiled
  intro parts cut
  rw [tile] at cut ⊢
  have moved : tile? (whole.shift n).span cuts' tail =
      (tile? whole.span cuts tail).map (List.map (Part.shift n)) := by
    rw [Excerpt.shift_span]
    exact tiled
  rw [moved]
  cases result : tile? whole.span cuts tail with
  | none =>
      rw [result] at cut
      cases cut
  | some found =>
      rw [result] at cut
      rw [Except.ok.inj cut]
      rfl

end Part

namespace Extraction

def Shifts (e : Extraction) : Prop :=
  ∀ n c, Follows (Token.shift n) (e c) (e (c.shift n))

theorem codeInline_shifts : codeInline.Shifts := by
  intro n c
  -- The steps of the extraction one after the other; only the places of the cuts are left.
  refine (c.require_shift n _ 0).bind fun whole => (c.require_shift n _ 2).bind fun content => ?_
  refine (Part.tile_shift n _ whole _ _ _ ?_).bind fun parts => Follows.of_ok _
  simp [Cut.shift]

theorem header_shifts : header.Shifts := by
  intro n c
  refine (c.require_shift n _ 0).bind fun whole => (c.require_shift n _ 1).bind fun hashes =>
    (c.require_shift n _ 2).bind fun content => ?_
  refine (Part.tile_shift n _ whole _ _ _ ?_).bind fun parts => Follows.of_ok _
  simp [Cut.shift]

theorem delimited_shifts (name : String) (openings contents : List Nat)
    (kind : Text → Text → TokenKind) : (delimited name openings contents kind).Shifts := by
  intro n c
  refine (c.require_shift n _ 0).bind fun whole =>
    (c.requireFirst_shift n _ openings _).bind fun opening =>
    (c.requireFirst_shift n _ contents _).bind fun content => ?_
  refine (Part.tile_shift n _ whole _ _ _ ?_).bind fun parts => Follows.of_ok _
  simp [Cut.shift]

theorem blockquote_shifts : blockquote.Shifts := by
  intro n c
  refine (c.require_shift n _ 0).bind fun whole => (c.require_shift n _ 1).bind fun indent =>
    (c.require_shift n _ 2).bind fun markers => (c.require_shift n _ 3).bind fun content => ?_
  refine (Part.tile_shift n _ whole _ _ _ ?_).bind fun parts => Follows.of_ok _
  simp [Cut.shift]

theorem list_shifts : list.Shifts := by
  intro n c
  refine (c.require_shift n _ 0).bind fun whole => (c.require_shift n _ 1).bind fun indent =>
    (c.require_shift n _ 2).bind fun marker => (c.require_shift n _ 3).bind fun gap =>
    (c.require_shift n _ 4).bind fun content => ?_
  refine (Part.tile_shift n _ whole _ _ _ ?_).bind fun parts => Follows.of_ok _
  simp [Cut.shift]

theorem table_shifts : table.Shifts := by
  intro n c
  refine (c.require_shift n _ 0).bind fun whole => (c.require_shift n _ 1).bind fun indent =>
    (c.require_shift n _ 2).bind fun opening => (c.require_shift n _ 3).bind fun content =>
    (c.require_shift n _ 4).bind fun closing => ?_
  refine (Part.tile_shift n _ whole _ _ _ ?_).bind fun parts => Follows.of_ok _
  simp [Cut.shift]

theorem codeBlock_shifts : codeBlock.Shifts := by
  intro n c
  refine (c.require_shift n _ 0).bind fun whole => (c.require_shift n _ 1).bind fun fence =>
    (c.require_shift n _ 2).bind fun language => (c.require_shift n _ 3).bind fun info =>
    (c.require_shift n _ 5).bind fun closing => ?_
  rw [Captures.group?_shift]
  cases c.group? 4 with
  | none =>
      refine (Part.tile_shift n _ whole _ _ _ ?_).bind fun parts => Follows.of_ok _
      simp [Cut.shift]
  | some body =>
      refine (Part.tile_shift n _ whole _ _ _ ?_).bind fun parts => Follows.of_ok _
      simp [Cut.shift]

theorem link_shifts : link.Shifts := by
  intro n c
  refine (c.require_shift n _ 0).bind fun whole => (c.require_shift n _ 1).bind fun opening =>
    (c.require_shift n _ 2).bind fun text => ?_
  -- Both kinds of destination come from groups, so they are found together or not at all.
  have target : linkDestination? (c.shift n) = (linkDestination? c).map
      fun (separator, destination, target, label) =>
        (separator.shift n, destination.shift n, target, label) := by
    simp only [linkDestination?, Captures.group?_shift]
    cases c.group? 3 <;> cases c.group? 4 <;> cases c.group? 6 <;> cases c.group? 7 <;> rfl
  rw [target]
  cases linkDestination? c with
  | none => exact Follows.of_error _ _
  | some found =>
      refine (Part.tile_shift n _ whole _ _ _ ?_).bind fun parts => Follows.of_ok _
      simp [Cut.shift]

end Extraction

theorem Grammar.markdown_shifts : ∀ p ∈ markdown, p.extraction.Shifts := by
  simp only [markdown, List.forall_mem_cons]
  exact ⟨Extraction.codeBlock_shifts, Extraction.codeInline_shifts, Extraction.header_shifts,
    Extraction.delimited_shifts _ _ _ _, Extraction.delimited_shifts _ _ _ _,
    Extraction.delimited_shifts _ _ _ _, Extraction.link_shifts, Extraction.blockquote_shifts,
    Extraction.list_shifts, Extraction.table_shifts, List.forall_mem_nil _⟩

theorem Pattern.extract_shift {p : Pattern} (shifts : p.extraction.Shifts) (n : Nat)
    (c : Captures) : Follows (Token.shift n) (p.extract c) (p.extract (c.shift n)) := by
  refine (shifts n c).bind fun t => ?_
  rw [Token.shift_type]
  split
  · exact Follows.of_ok t
  · exact Follows.of_error _ _

end MarkdownHighlight
