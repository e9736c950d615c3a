import MarkdownHighlight.Proofs.Text.Walk

/-!
Stretches of a text that stand one after the other. Spans tile a region when
each starts where the one before it ends. An excerpt covers another one when
the second is a stretch of its text at the right place; slicing the outer
excerpt then gives the inner one back.
-/

namespace MarkdownHighlight

namespace Span

def Tiles (start stop : Nat) : List Span → Prop
  | [] => start = stop
  | s :: later => s.start = start ∧ s.start ≤ s.stop ∧ Tiles s.stop stop later

theorem tiles_append (start stop : Nat) (before after : List Span) :
    Tiles start stop (before ++ after) ↔
      ∃ middle, Tiles start middle before ∧ Tiles middle stop after := by
  induction before generalizing start with
  | nil =>
      simp only [List.nil_append, Tiles]
      constructor
      · intro tiled
        exact ⟨start, rfl, tiled⟩
      · rintro ⟨middle, rfl, tiled⟩
        exact tiled
  | cons s later ih =>
      simp only [List.cons_append, Tiles, ih]
      constructor
      · rintro ⟨atStart, ordered, middle, left, right⟩
        exact ⟨middle, ⟨atStart, ordered, left⟩, right⟩
      · rintro ⟨middle, ⟨atStart, ordered, left⟩, right⟩
        exact ⟨atStart, ordered, middle, left, right⟩

theorem Tiles.le {start stop : Nat} {spans : List Span} (tiled : Tiles start stop spans) :
    start ≤ stop := by
  induction spans generalizing start with
  | nil => exact Nat.le_of_eq tiled
  | cons s later ih =>
      obtain ⟨atStart, ordered, rest⟩ := tiled
      have := ih rest
      omega

theorem Tiles.inside {start stop : Nat} {spans : List Span} (tiled : Tiles start stop spans)
    (s : Span) (member : s ∈ spans) : start ≤ s.start ∧ s.start ≤ s.stop ∧ s.stop ≤ stop := by
  induction spans generalizing start with
  | nil => cases member
  | cons first later ih =>
      obtain ⟨atStart, ordered, rest⟩ := tiled
      rcases List.mem_cons.mp member with same | other
      · subst same
        exact ⟨Nat.le_of_eq atStart.symm, ordered, rest.le⟩
      · have := ih rest other
        omega

theorem Tiles.apart {start stop : Nat} {spans : List Span} (tiled : Tiles start stop spans) :
    spans.Pairwise fun a b => a.stop ≤ b.start := by
  induction spans generalizing start with
  | nil => exact List.Pairwise.nil
  | cons s later ih =>
      obtain ⟨_, _, rest⟩ := tiled
      exact List.pairwise_cons.mpr ⟨fun b member => (rest.inside b member).1, ih rest⟩

@[simp] theorem contains_iff (outer inner : Span) :
    outer.contains inner = true ↔ outer.start ≤ inner.start ∧ inner.stop ≤ outer.stop := by
  simp [contains]

@[simp] theorem disjoint_iff (a b : Span) :
    a.disjoint b = true ↔ a.stop ≤ b.start ∨ b.stop ≤ a.start := by
  simp [disjoint]

theorem disjoint_comm (a b : Span) : a.disjoint b = b.disjoint a := by
  simp [disjoint, Bool.or_comm]

theorem eq_of_ends (a b : Span) (start : a.start = b.start) (stop : a.stop = b.stop) : a = b := by
  obtain ⟨aStart, aStop⟩ := a
  obtain ⟨bStart, bStop⟩ := b
  simp only at start stop
  rw [start, stop]

end Span

def Text.whole (t : Text) : Excerpt := ⟨0, t⟩

namespace Excerpt

/-- The excerpt `inner` stands in the text of `outer`, at its place. -/
def Covers (outer inner : Excerpt) : Prop :=
  ∃ lead tail, outer.text = lead ++ inner.text ++ tail ∧ inner.start = outer.start + lead.size

theorem Covers.refl (e : Excerpt) : e.Covers e := ⟨[], [], by simp, by simp [Text.size]⟩

theorem Covers.trans {a b c : Excerpt} (first : a.Covers b) (second : b.Covers c) :
    a.Covers c := by
  obtain ⟨lead, tail, text, place⟩ := first
  obtain ⟨lead', tail', text', place'⟩ := second
  refine ⟨lead ++ lead', tail' ++ tail, ?_, ?_⟩
  · simp [text, text']
  · rw [place', place, Text.size_append, Nat.add_assoc]

theorem Covers.bounds {outer inner : Excerpt} (covered : outer.Covers inner) :
    outer.start ≤ inner.start ∧ inner.stop ≤ outer.stop := by
  obtain ⟨lead, tail, text, place⟩ := covered
  simp only [Excerpt.stop, text, Text.size_append]
  omega

theorem Covers.stop_le {text : Text} {e : Excerpt} (covered : text.whole.Covers e) :
    e.stop ≤ text.size := by
  have within := covered.bounds.2
  rwa [stop, stop, Text.whole, Nat.zero_add] at within

theorem Covers.slice {outer inner : Excerpt} (covered : outer.Covers inner) :
    outer.slice inner.span = inner := by
  obtain ⟨lead, tail, text, place⟩ := covered
  have front : inner.start - outer.start = lead.size := by omega
  have width : inner.stop - inner.start = inner.text.size := by
    simp only [Excerpt.stop]
    omega
  simp only [Excerpt.slice, Excerpt.startingAt, Excerpt.upTo, Excerpt.span, front, width, text]
  rw [List.append_assoc, Text.dropBytes_append, Text.takeBytes_append]

/-- Excerpts of one text are known by their spans. -/
theorem Covers.eq_of_span {outer a b : Excerpt} (first : outer.Covers a) (second : outer.Covers b)
    (same : a.span = b.span) : a = b := by
  rw [← first.slice, ← second.slice, same]

theorem Covers.of_contains {outer a b : Excerpt} (first : outer.Covers a)
    (second : outer.Covers b) (inside : a.span.contains b.span = true) : a.Covers b := by
  obtain ⟨lead, tail, text, place⟩ := first
  obtain ⟨lead', tail', text', place'⟩ := second
  rw [Span.contains_iff] at inside
  simp only [Excerpt.span, Excerpt.stop] at inside
  have same : lead ++ (a.text ++ tail) = lead' ++ (b.text ++ tail') := by
    rw [← List.append_assoc, ← List.append_assoc, ← text, ← text']
  -- Both cuts of the outer text are compared twice: at the start of the inner
  -- excerpt for what stands before it, at its end for what is left behind it.
  obtain ⟨front, lead_eq, rest⟩ := Text.append_split lead _ lead' _ same (by omega)
  rw [lead_eq, Text.size_append] at place'
  rw [← List.append_assoc] at rest
  obtain ⟨back, inner_eq, _⟩ := Text.append_split (front ++ b.text) tail' a.text tail rest.symm (by
    rw [Text.size_append]
    omega)
  exact ⟨front, back, inner_eq, by omega⟩

def CutAt (e : Excerpt) (place : Nat) : Prop :=
  ∃ lead tail, e.text = lead ++ tail ∧ place = e.start + lead.size

theorem upTo_append {e : Excerpt} {lead tail : Text} (text : e.text = lead ++ tail) :
    e.upTo (e.start + lead.size) = ⟨e.start, lead⟩ := by
  simp [Excerpt.upTo, text]

theorem startingAt_append {e : Excerpt} {lead tail : Text} (text : e.text = lead ++ tail) :
    e.startingAt (e.start + lead.size) = ⟨e.start + lead.size, tail⟩ := by
  simp [Excerpt.startingAt, text]

theorem CutAt.split {e : Excerpt} {place : Nat} (cut : e.CutAt place) :
    e.text = (e.upTo place).text ++ (e.startingAt place).text ∧
      (e.upTo place).stop = place := by
  obtain ⟨lead, tail, text, rfl⟩ := cut
  rw [upTo_append text, startingAt_append text]
  exact ⟨text, rfl⟩

theorem CutAt.covers_upTo {e : Excerpt} {place : Nat} (cut : e.CutAt place) :
    e.Covers (e.upTo place) := by
  obtain ⟨lead, tail, text, rfl⟩ := cut
  rw [upTo_append text]
  exact ⟨[], tail, by simp [text], by simp [Text.size]⟩

theorem CutAt.covers_startingAt {e : Excerpt} {place : Nat} (cut : e.CutAt place) :
    e.Covers (e.startingAt place) := by
  obtain ⟨lead, tail, text, rfl⟩ := cut
  rw [startingAt_append text]
  exact ⟨lead, [], by simp [text], rfl⟩

theorem CutAt.startingAt_stop {e : Excerpt} {place : Nat} (cut : e.CutAt place) :
    (e.startingAt place).stop = e.stop := by
  obtain ⟨lead, tail, text, rfl⟩ := cut
  rw [startingAt_append text]
  simp [Excerpt.stop, text, Nat.add_assoc]

end Excerpt

theorem Cursor.Walks.covers {c d : Cursor} {w : Text} (walk : c.Walks w d) :
    (Text.whole c.text).Covers ⟨c.offset, w⟩ := by
  refine ⟨c.before.reverse, d.rest, ?_, ?_⟩
  · simp [Text.whole, Cursor.text, walk.rest_eq]
  · simp [Text.whole, c.offset_eq, Cursor.size_reverse]

end MarkdownHighlight
