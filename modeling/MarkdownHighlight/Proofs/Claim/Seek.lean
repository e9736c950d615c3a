import MarkdownHighlight.Proofs.Claim.Visits

/-!
Where a cursor comes to that looks for a place. It stops at the first character boundary that is
not before the place, or at the end of the text, and it may set out from any boundary that is not
behind the place.
-/

namespace MarkdownHighlight

def Text.cursorAt (text : Text) (place : Nat) : Cursor := (Cursor.atStart text).seek place

namespace Cursor

theorem offset_add_rest (c : Cursor) : c.offset + c.rest.size = c.text.size := by
  rw [text, Text.size_append, size_reverse, c.offset_eq]

theorem seek_of_forward? {c next : Cursor} {place : Nat} (step : c.forward? = some next)
    (early : c.offset < place) : c.seek place = next.seek place := by
  obtain ⟨ch, walk⟩ := (forward?_eq_some_iff c next).mp step
  have rest : c.rest = ch :: next.rest := walk.rest_eq
  rw [seek, rest, seekWithin, if_neg (Nat.not_le.mpr early), step]
  rfl

/-- To look for a later place one may set out from any place before it. -/
theorem seek_of_walk_le {c d : Cursor} {w : Text} {place : Nat} (walk : c.Walks w d)
    (le : d.offset ≤ place) : c.seek place = d.seek place := by
  induction w generalizing c with
  | nil => rw [walk.eq_of_nil]
  | cons ch w ih =>
      have early := walk.offset_lt_iff.mpr (List.cons_ne_nil ch w)
      obtain ⟨next, step, onward⟩ := walk.uncons
      rw [seek_of_forward? step (Nat.lt_of_lt_of_le early le), ih onward]

/-- A place that is looked for is reached unless the text ends before it. -/
theorem seek_reaches (c : Cursor) (place : Nat) :
    place ≤ (c.seek place).offset ∨ (c.seek place).rest = [] := by
  induction size : c.rest.length generalizing c with
  | zero =>
      have ended := List.eq_nil_of_length_eq_zero size
      rw [seek, ended]
      exact Or.inr ended
  | succ n ih =>
      by_cases early : c.offset < place
      · cases step : c.forward? with
        | none =>
            rw [(forward?_eq_none_iff c).mp step] at size
            cases size
        | some next =>
            have shorter := rest_of_forward? step
            rw [seek_of_forward? step early]
            exact ih next (by omega)
      · obtain ⟨ch, later, rest⟩ := List.exists_cons_of_length_eq_add_one size
        rw [seek, rest, seekWithin, if_pos (Nat.not_lt.mp early)]
        exact Or.inl (Nat.not_lt.mp early)

end Cursor

namespace Text

theorem cursorAt_text (text : Text) (place : Nat) : (text.cursorAt place).text = text := by
  obtain ⟨w, walk⟩ := ((Cursor.atStart text).seek_passes place).1
  exact walk.text

theorem cursorAt_of_seek {text : Text} {c : Cursor} {place : Nat} (within : c.text = text)
    (le : c.offset ≤ place) : c.seek place = text.cursorAt place := by
  obtain ⟨w, walk⟩ := Cursor.walk_of_offset_le (.atStart text) c within.symm (Nat.zero_le _)
  exact (Cursor.seek_of_walk_le walk le).symm

theorem cursorAt_offset {text : Text} {c : Cursor} (within : c.text = text) :
    text.cursorAt c.offset = c := by
  obtain ⟨w, walk⟩ := Cursor.walk_of_offset_le (.atStart text) c within.symm (Nat.zero_le _)
  exact Cursor.seek_of_walk walk

theorem le_cursorAt {text : Text} {place : Nat} (le : place ≤ text.size) :
    place ≤ (text.cursorAt place).offset := by
  rcases (Cursor.atStart text).seek_reaches place with reached | ended
  · exact reached
  · have whole := (text.cursorAt place).offset_add_rest
    rw [cursorAt_text] at whole
    have none : (text.cursorAt place).rest.size = 0 := by
      rw [cursorAt, ended]
      rfl
    omega

theorem cursorAt_behind {text : Text} {place : Nat} (behind : text.size < place) :
    (text.cursorAt place).rest = [] := by
  rcases (Cursor.atStart text).seek_reaches place with reached | ended
  · have whole := (text.cursorAt place).offset_add_rest
    rw [cursorAt_text, cursorAt] at whole
    omega
  · exact ended

end Text

end MarkdownHighlight
