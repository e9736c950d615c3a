import MarkdownHighlight.Proofs.Text.Tiles

/-!
Places of a text that stands behind another one. All that is computed from
places moves along with them, and what lies within a text is not changed by
what is added at its end.
-/

namespace MarkdownHighlight

namespace Text

theorem takeBytes_append_of_le (count : Nat) (a b : Text) (le : count ≤ size a) :
    takeBytes count (a ++ b) = takeBytes count a := by
  induction a generalizing count with
  | nil =>
      have none : count = 0 := Nat.le_zero.mp le
      simp [none]
  | cons c rest ih =>
      rw [size] at le
      rw [List.cons_append, takeBytes, takeBytes]
      split
      · rfl
      · rw [ih _ (by omega)]

theorem dropBytes_append_of_le (count : Nat) (a b : Text) (le : count ≤ size a) :
    dropBytes count (a ++ b) = dropBytes count a ++ b := by
  induction a generalizing count with
  | nil =>
      have none : count = 0 := Nat.le_zero.mp le
      simp [none]
  | cons c rest ih =>
      rw [size] at le
      rw [List.cons_append, dropBytes, dropBytes]
      split
      · rfl
      · exact ih _ (by omega)

theorem takeBytes_append_of_ge (count : Nat) (a b : Text) (ge : size a ≤ count) :
    takeBytes count (a ++ b) = a ++ takeBytes (count - size a) b := by
  induction a generalizing count with
  | nil => simp [size]
  | cons c rest ih =>
      rw [size] at ge
      rw [List.cons_append, takeBytes, if_neg (by omega), ih _ (by omega), size, List.cons_append,
        Nat.sub_sub]

theorem dropBytes_append_of_ge (count : Nat) (a b : Text) (ge : size a ≤ count) :
    dropBytes count (a ++ b) = dropBytes (count - size a) b := by
  induction a generalizing count with
  | nil => simp [size]
  | cons c rest ih =>
      have wide := c.utf8Size_pos
      rw [size] at ge
      rw [List.cons_append, dropBytes, if_neg (by omega), ih _ (by omega), size, Nat.sub_sub]

end Text

namespace Span

def shift (n : Nat) (s : Span) : Span := ⟨n + s.start, n + s.stop⟩

@[simp] theorem shift_start (n : Nat) (s : Span) : (s.shift n).start = n + s.start := rfl

@[simp] theorem shift_stop (n : Nat) (s : Span) : (s.shift n).stop = n + s.stop := rfl

theorem disjoint_shift (n : Nat) (a b : Span) :
    (a.shift n).disjoint (b.shift n) = a.disjoint b := by
  simp [disjoint]

theorem contains_shift (n : Nat) (outer inner : Span) :
    (outer.shift n).contains (inner.shift n) = outer.contains inner := by
  simp [contains]

theorem precedes_shift (n : Nat) (a b : Span) :
    (a.shift n).precedes (b.shift n) = a.precedes b := by
  have same : (n + a.start == n + b.start) = (a.start == b.start) := by
    rw [Bool.eq_iff_iff]
    simp
  simp [precedes, same]

theorem shift_bne (n : Nat) (a b : Span) : (a.shift n != b.shift n) = (a != b) := by
  obtain ⟨aStart, aStop⟩ := a
  obtain ⟨bStart, bStop⟩ := b
  rw [Bool.eq_iff_iff]
  simp [shift]

end Span

namespace Excerpt

def shift (n : Nat) (e : Excerpt) : Excerpt := ⟨n + e.start, e.text⟩

@[simp] theorem shift_start (n : Nat) (e : Excerpt) : (e.shift n).start = n + e.start := rfl

@[simp] theorem shift_text (n : Nat) (e : Excerpt) : (e.shift n).text = e.text := rfl

@[simp] theorem shift_stop (n : Nat) (e : Excerpt) : (e.shift n).stop = n + e.stop := by
  simp [Excerpt.stop, Nat.add_assoc]

@[simp] theorem shift_span (n : Nat) (e : Excerpt) : (e.shift n).span = e.span.shift n := by
  simp [Excerpt.span, Span.shift]

@[simp] theorem shift_isEmpty (n : Nat) (e : Excerpt) : (e.shift n).isEmpty = e.isEmpty := rfl

theorem upTo_shift (n : Nat) (e : Excerpt) (place : Nat) :
    (e.shift n).upTo (n + place) = (e.upTo place).shift n := by
  simp [upTo, shift, Nat.add_sub_add_left]

theorem startingAt_shift (n : Nat) (e : Excerpt) (place : Nat) :
    (e.shift n).startingAt (n + place) = (e.startingAt place).shift n := by
  simp [startingAt, shift, Nat.add_sub_add_left]

theorem slice_shift (n : Nat) (e : Excerpt) (s : Span) :
    (e.shift n).slice (s.shift n) = (e.slice s).shift n := by
  rw [slice, Span.shift_start, Span.shift_stop, startingAt_shift, upTo_shift, slice]

/-- Behind a cut the same is sliced off the excerpt and off what remains of it. -/
theorem CutAt.slice_startingAt {e : Excerpt} {place : Nat} (cut : e.CutAt place) {s : Span}
    (after : place ≤ s.start) : (e.startingAt place).slice s = e.slice s := by
  obtain ⟨lead, tail, split, rfl⟩ := cut
  have low : lead.size ≤ s.start - e.start := by omega
  rw [startingAt_append split, slice, slice, startingAt, startingAt, split,
    Text.dropBytes_append_of_ge _ _ _ low, Nat.sub_sub]

end Excerpt

end MarkdownHighlight
