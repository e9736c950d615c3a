import MarkdownHighlight.Text.Cursor

/-!
How the cursors of one text are related. A walk leads from a place to a later
one over the characters in between. A cursor is known by its text together with
its offset, and the excerpt between two cursors is what the walk passes over.
-/

namespace MarkdownHighlight

namespace Text

/-- What is said of the characters of a text is decided by trying these; there
are only so many characters, but too many to try each. -/
instance (priority := high) decidableForallMem (t : Text) (P : Char → Prop) [DecidablePred P] :
    Decidable (∀ ch ∈ t, P ch) := List.decidableBAll P t

theorem size_pos_of_ne_nil (t : Text) (some : t ≠ []) : 0 < size t := by
  cases t with
  | nil => exact absurd rfl some
  | cons c rest => exact Nat.add_pos_left c.utf8Size_pos _

theorem eq_nil_of_size_eq_zero (t : Text) (none : size t = 0) : t = [] := by
  cases t with
  | nil => rfl
  | cons c rest =>
      have wide := c.utf8Size_pos
      simp only [size] at none
      omega

/-- Of two ways to cut one text, the later first part continues the earlier. -/
theorem append_split (a b a' b' : Text) (same : a ++ b = a' ++ b') (le : size a ≤ size a') :
    ∃ w, a' = a ++ w ∧ b = w ++ b' := by
  rcases List.append_eq_append_iff.mp same with ⟨w, longer, tail⟩ | ⟨w, shorter, tail⟩
  · exact ⟨w, longer, tail⟩
  -- The first part may still be the longer one; then what it has more is empty.
  · have none : size w = 0 := by
      rw [shorter, size_append] at le
      omega
    have empty := eq_nil_of_size_eq_zero w none
    exact ⟨[], by simp [shorter, empty], by simp [tail, empty]⟩

theorem append_inj {a b a' b' : Text} (same : a ++ b = a' ++ b') (sizes : size a = size a') :
    a = a' ∧ b = b' := by
  obtain ⟨w, longer, tail⟩ := append_split a b a' b' same (Nat.le_of_eq sizes)
  have none : size w = 0 := by
    rw [longer, size_append] at sizes
    omega
  have empty := eq_nil_of_size_eq_zero w none
  exact ⟨by simp [longer, empty], by simp [tail, empty]⟩

end Text

namespace Cursor

theorem eq_of_sides (c d : Cursor) (before : c.before = d.before) (rest : c.rest = d.rest) :
    c = d := by
  obtain ⟨cBefore, cRest, cOffset, cOffset_eq⟩ := c
  obtain ⟨dBefore, dRest, dOffset, dOffset_eq⟩ := d
  simp only at before rest
  subst before rest cOffset_eq dOffset_eq
  rfl

/-- `d` stands behind the text `w` that begins at `c`. -/
structure Walks (c : Cursor) (w : Text) (d : Cursor) : Prop where
  rest_eq : c.rest = w ++ d.rest
  before_eq : d.before = w.reverse ++ c.before

theorem size_reverse (t : Text) : Text.size t.reverse = Text.size t := by
  induction t with
  | nil => rfl
  | cons c rest ih =>
      rw [List.reverse_cons, Text.size_append, ih]
      simp [Text.size, Nat.add_comm]

@[simp] theorem excerptTo_start (c d : Cursor) : (c.excerptTo d).start = c.offset := rfl

namespace Walks

variable {c d e : Cursor} {v w : Text}

theorem refl (c : Cursor) : c.Walks [] c := ⟨rfl, rfl⟩

theorem trans (first : c.Walks v d) (second : d.Walks w e) : c.Walks (v ++ w) e where
  rest_eq := by rw [first.rest_eq, second.rest_eq, List.append_assoc]
  before_eq := by
    rw [second.before_eq, first.before_eq, List.reverse_append, List.append_assoc]

theorem offset (walk : c.Walks w d) : d.offset = c.offset + Text.size w := by
  rw [d.offset_eq, walk.before_eq, Text.size_append, size_reverse, c.offset_eq]
  omega

theorem offset_le (walk : c.Walks w d) : c.offset ≤ d.offset := by
  have := walk.offset
  omega

theorem text (walk : c.Walks w d) : d.text = c.text := by
  simp [Cursor.text, walk.before_eq, walk.rest_eq]

theorem length (walk : c.Walks w d) : c.rest.length = w.length + d.rest.length := by
  rw [walk.rest_eq, List.length_append]

theorem length_lt (walk : c.Walks w d) (some : w ≠ []) : d.rest.length < c.rest.length := by
  have := List.length_pos_iff.mpr some
  have := walk.length
  omega

theorem target_unique (walk : c.Walks w d) (other : c.Walks w e) : d = e := by
  apply eq_of_sides
  · rw [walk.before_eq, other.before_eq]
  · have := walk.rest_eq.symm.trans other.rest_eq
    exact List.append_cancel_left this

theorem word_unique (walk : c.Walks v d) (other : c.Walks w d) : v = w :=
  List.append_cancel_right (walk.rest_eq.symm.trans other.rest_eq)

theorem eq_of_nil (walk : c.Walks [] d) : c = d := (refl c).target_unique walk

theorem offset_lt_iff (walk : c.Walks w d) : c.offset < d.offset ↔ w ≠ [] := by
  rw [walk.offset]
  constructor
  · intro later none
    subst none
    simp [Text.size] at later
  · intro some
    have := Text.size_pos_of_ne_nil w some
    omega

theorem excerptTo (walk : c.Walks w d) : c.excerptTo d = ⟨c.offset, w⟩ := by
  have size : d.offset - c.offset = Text.size w := by
    have := walk.offset
    omega
  rw [Cursor.excerptTo, size, walk.rest_eq, Text.takeBytes_append]

theorem excerptTo_stop (walk : c.Walks w d) : (c.excerptTo d).stop = d.offset := by
  rw [walk.excerptTo, Excerpt.stop, walk.offset]

theorem excerptTo_span (walk : c.Walks w d) : (c.excerptTo d).span = ⟨c.offset, d.offset⟩ := by
  rw [Excerpt.span, walk.excerptTo_stop, excerptTo_start]

theorem of_append (walk : c.Walks (v ++ w) e) : ∃ d, c.Walks v d ∧ d.Walks w e := by
  have rest_eq := walk.rest_eq
  rw [List.append_assoc] at rest_eq
  refine ⟨⟨v.reverse ++ c.before, w ++ e.rest, _, rfl⟩, ⟨rest_eq, rfl⟩, ⟨rfl, ?_⟩⟩
  rw [walk.before_eq, List.reverse_append, List.append_assoc]

/-- Of two walks from one place the longer goes on from the end of the shorter. -/
theorem continue_of_le (short : c.Walks v d) (long : c.Walks w e) (le : d.offset ≤ e.offset) :
    ∃ u, w = v ++ u ∧ d.Walks u e := by
  have same := short.rest_eq.symm.trans long.rest_eq
  have sizes : Text.size v ≤ Text.size w := by
    have := short.offset
    have := long.offset
    omega
  obtain ⟨u, longer, tail⟩ := Text.append_split v d.rest w e.rest same sizes
  refine ⟨u, longer, ⟨tail, ?_⟩⟩
  rw [long.before_eq, longer, short.before_eq, List.reverse_append, List.append_assoc]

theorem next? {ch : Char} (walk : c.Walks (ch :: w) d) : c.next? = some ch := by
  simp [Cursor.next?, walk.rest_eq]

theorem previous? {ch : Char} (walk : c.Walks (w ++ [ch]) d) : d.previous? = some ch := by
  simp [Cursor.previous?, walk.before_eq]

theorem previous?_eq_getLast (walk : c.Walks w d) (some : w ≠ []) :
    d.previous? = .some (w.getLast some) := by
  rw [← List.dropLast_concat_getLast some] at walk
  exact walk.previous?

end Walks

theorem exists_walk (c : Cursor) (w rest : Text) (rest_eq : c.rest = w ++ rest) :
    ∃ d, c.Walks w d ∧ d.rest = rest :=
  ⟨⟨w.reverse ++ c.before, rest, _, rfl⟩, ⟨rest_eq, rfl⟩, rfl⟩

theorem forward?_eq_some_iff (c d : Cursor) :
    c.forward? = some d ↔ ∃ ch, c.Walks [ch] d := by
  obtain ⟨before, rest, offset, offset_eq⟩ := c
  cases rest with
  | nil =>
      constructor
      · intro found
        cases found
      · rintro ⟨ch, walk⟩
        have := walk.rest_eq
        simp at this
  | cons ch later =>
      -- There is one character to pass, so the step to its other side is the only
      -- candidate; both directions compare with it.
      have step : Walks ⟨before, ch :: later, offset, offset_eq⟩ [ch]
          ⟨ch :: before, later, ch.utf8Size + offset, by simp [Text.size, offset_eq]⟩ :=
        ⟨rfl, rfl⟩
      simp only [forward?, Option.some.injEq]
      constructor
      · rintro rfl
        exact ⟨ch, step⟩
      · rintro ⟨other, walk⟩
        have same : other = ch := by
          have := walk.rest_eq
          simp only [List.cons_append, List.nil_append, List.cons.injEq] at this
          exact this.1.symm
        subst same
        exact step.target_unique walk

theorem Walks.uncons {c d : Cursor} {ch : Char} {w : Text} (walk : c.Walks (ch :: w) d) :
    ∃ next, c.forward? = some next ∧ next.Walks w d := by
  obtain ⟨next, step, onward⟩ := Walks.of_append (v := [ch]) (w := w) walk
  exact ⟨next, (forward?_eq_some_iff c next).mpr ⟨ch, step⟩, onward⟩

theorem Walks.cons_of_forward? {c next d : Cursor} {w : Text} (step : c.forward? = some next)
    (walk : next.Walks w d) : ∃ ch, c.Walks (ch :: w) d := by
  obtain ⟨ch, first⟩ := (forward?_eq_some_iff c next).mp step
  exact ⟨ch, first.trans walk⟩

theorem rest_of_forward? {c d : Cursor} (step : c.forward? = some d) :
    c.rest.length = d.rest.length + 1 := by
  obtain ⟨ch, walk⟩ := (forward?_eq_some_iff c d).mp step
  rw [walk.length, List.length_singleton, Nat.add_comm]

theorem forward?_eq_none_iff (c : Cursor) : c.forward? = none ↔ c.rest = [] := by
  obtain ⟨before, rest, offset, offset_eq⟩ := c
  cases rest <;> simp [forward?]

theorem walk_of_offset_le (c d : Cursor) (same : c.text = d.text) (le : c.offset ≤ d.offset) :
    ∃ w, c.Walks w d := by
  have sizes : Text.size c.before.reverse ≤ Text.size d.before.reverse := by
    rw [size_reverse, size_reverse, ← c.offset_eq, ← d.offset_eq]
    exact le
  obtain ⟨w, longer, tail⟩ := Text.append_split _ _ _ _ same sizes
  refine ⟨w, tail, ?_⟩
  have := congrArg List.reverse longer
  simpa using this

theorem atStart_text (t : Text) : (atStart t).text = t := rfl

end Cursor

end MarkdownHighlight
