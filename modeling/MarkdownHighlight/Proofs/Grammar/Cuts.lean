import MarkdownHighlight.Grammar.Tiling
import MarkdownHighlight.Proofs.Markup.Seam
import MarkdownHighlight.Proofs.Text.Tiles
import MarkdownHighlight.Regex.Matching

/-!
Tokens whose parts end at cursors of the text. Cutting succeeds exactly when the
cuts ascend within the match, and the parts then tile it. A token is well cut
when it stands in the text at its place, its parts tile it with one content
part among them, and every part begins and ends at a seam.
-/

namespace MarkdownHighlight

namespace Part

def ofCuts : Nat → List Cut → List Part
  | _, [] => []
  | start, c :: later => ofCut start c ++ ofCuts c.stop later

def Ascending (limit : Nat) : Nat → List Cut → Prop
  | _, [] => True
  | start, c :: later => start ≤ c.stop ∧ c.stop ≤ limit ∧ Ascending limit c.stop later

def lastStop : Nat → List Cut → Nat
  | start, [] => start
  | _, c :: later => lastStop c.stop later

theorem tileWithin_eq_some_iff (limit start : Nat) (cuts : List Cut) (parts : List Part) :
    tileWithin limit start cuts = some parts ↔
      Ascending limit start cuts ∧ parts = ofCuts start cuts := by
  induction cuts generalizing start parts with
  | nil => simp [tileWithin, Ascending, ofCuts, eq_comm]
  | cons c later ih =>
      by_cases back : c.stop < start ∨ limit < c.stop
      · have refused : ¬ Ascending limit start (c :: later) := by
          rintro ⟨forward, within, _⟩
          omega
        simp [tileWithin, back, refused]
      · have forward : start ≤ c.stop ∧ c.stop ≤ limit := by omega
        simp only [tileWithin, Bool.or_eq_true, decide_eq_true_eq, if_neg back,
          Option.map_eq_some_iff, ih, Ascending, forward, true_and, ofCuts]
        constructor
        · rintro ⟨_, ⟨ascending, rfl⟩, rfl⟩
          exact ⟨ascending, rfl⟩
        · rintro ⟨ascending, rfl⟩
          exact ⟨_, ⟨ascending, rfl⟩, rfl⟩

theorem tile_of_ascending (name : String) (span : Span) (cuts : List Cut) (tail : Role)
    (ascending : Ascending span.stop span.start (cuts ++ [⟨tail, span.stop⟩])) :
    tile name span cuts tail = .ok (ofCuts span.start (cuts ++ [⟨tail, span.stop⟩])) := by
  rw [tile, tile?, (tileWithin_eq_some_iff ..).mpr ⟨ascending, rfl⟩]

theorem ofCuts_append (start : Nat) (before after : List Cut) :
    ofCuts start (before ++ after) =
      ofCuts start before ++ ofCuts (lastStop start before) after := by
  induction before generalizing start with
  | nil => rfl
  | cons c later ih => simp [ofCuts, lastStop, ih]

theorem tiles_ofCuts (limit start : Nat) (cuts : List Cut)
    (ascending : Ascending limit start cuts) :
    Span.Tiles start (lastStop start cuts) ((ofCuts start cuts).map (·.span)) := by
  induction cuts generalizing start with
  | nil => rfl
  | cons c later ih =>
      obtain ⟨forward, _, rest⟩ := ascending
      rw [ofCuts, List.map_append, lastStop]
      refine (Span.tiles_append ..).mpr ⟨c.stop, ?_, ih c.stop rest⟩
      rw [ofCut]
      -- A cut that leaves no part does not move, so the gap closes by itself.
      split
      · exact ⟨rfl, forward, rfl⟩
      · rename_i dropped
        simp only [Bool.or_eq_true, decide_eq_true_eq, not_or] at dropped
        exact Nat.le_antisymm forward (Nat.le_of_not_lt dropped.1)

theorem mem_ofCuts (start : Nat) (cuts : List Cut) (p : Part) (member : p ∈ ofCuts start cuts) :
    ∃ c ∈ cuts, p.role = c.role ∧ p.span.stop = c.stop ∧
      (p.span.start = start ∨ ∃ d ∈ cuts, p.span.start = d.stop) := by
  induction cuts generalizing start with
  | nil => cases member
  | cons c later ih =>
      rcases List.mem_append.mp member with here | there
      · rw [ofCut] at here
        split at here
        · rw [List.mem_singleton.mp here]
          exact ⟨c, List.mem_cons_self, rfl, rfl, Or.inl rfl⟩
        · cases here
      · obtain ⟨d, inside, role, stop, begins⟩ := ih c.stop there
        refine ⟨d, List.mem_cons_of_mem c inside, role, stop, Or.inr ?_⟩
        rcases begins with atCut | ⟨e, other, atCut⟩
        · exact ⟨c, List.mem_cons_self, atCut⟩
        · exact ⟨e, List.mem_cons_of_mem c other, atCut⟩

end Part

/-- No entity reference reaches over the cursor. -/
def Cursor.seam (c : Cursor) : Bool := Markup.seam c.previous? c.next?

/-- No character of the text stands in an entity reference. -/
def Markup.Strange (w : Text) : Prop :=
  ∀ ch ∈ w, opensReference ch = false ∧ continuesReference ch = false

instance (w : Text) : Decidable (Markup.Strange w) := List.decidableBAll _ w

namespace Cursor.Walks

variable {c d : Cursor} {w : Text}

theorem seam_of_next {ch : Char} (walk : c.Walks (ch :: w) d)
    (stranger : Markup.continuesReference ch = false) : c.seam = true := by
  simp [Cursor.seam, Markup.seam, walk.next?, stranger]

theorem seam_of_previous {ch : Char} (walk : c.Walks (w ++ [ch]) d)
    (stranger : Markup.opensReference ch = false) : d.seam = true := by
  simp [Cursor.seam, Markup.seam, walk.previous?, stranger]

theorem seam_before (walk : c.Walks w d) (some : w ≠ []) (strange : Markup.Strange w) :
    c.seam = true := by
  cases w with
  | nil => exact absurd rfl some
  | cons ch later => exact walk.seam_of_next (strange ch List.mem_cons_self).2

theorem seam_after (walk : c.Walks w d) (some : w ≠ []) (strange : Markup.Strange w) :
    d.seam = true := by
  rw [← List.dropLast_concat_getLast some] at walk
  exact walk.seam_of_previous (strange _ (List.getLast_mem some)).1

/-- A seam spreads over strange characters, here to the left. -/
theorem seam_left (walk : c.Walks w d) (strange : Markup.Strange w) (seamed : d.seam = true) :
    c.seam = true := by
  by_cases none : w = []
  · subst none
    rwa [walk.eq_of_nil]
  · exact walk.seam_before none strange

theorem seam_right (walk : c.Walks w d) (strange : Markup.Strange w) (seamed : c.seam = true) :
    d.seam = true := by
  by_cases none : w = []
  · subst none
    rwa [← walk.eq_of_nil]
  · exact walk.seam_after none strange

end Cursor.Walks

theorem Cursor.seam_of_lineStart (c : Cursor) (atStart : Assertion.lineStart.holds c = true) :
    c.seam = true := by
  rw [Assertion.holds] at atStart
  cases before : c.previous? with
  | none => simp [Cursor.seam, Markup.seam, before]
  | some ch =>
      have newline : ch = '\n' := by simpa [before] using atStart
      have stranger : Markup.opensReference '\n' = false := by decide
      simp [Cursor.seam, Markup.seam, before, newline, stranger]

theorem Cursor.seam_of_lineEnd (c : Cursor) (atEnd : Assertion.lineEnd.holds c = true) :
    c.seam = true := by
  rw [Assertion.holds] at atEnd
  cases after : c.next? with
  | none => simp [Cursor.seam, Markup.seam, after]
  | some ch =>
      have newline : ch = '\n' := by simpa [after] using atEnd
      have stranger : Markup.continuesReference '\n' = false := by decide
      simp [Cursor.seam, Markup.seam, after, newline, stranger]

/-- A place of a text over which no entity reference reaches. -/
def SeamAt (text : Text) (place : Nat) : Prop :=
  ∃ c : Cursor, c.text = text ∧ c.offset = place ∧ c.seam = true

def Role.Known : Role → Prop
  | .metadata name => name = "language" ∨ name = "url" ∨ name = "ref"
  | _ => True

structure Token.WellCut (text : Text) (t : Token) : Prop where
  covered : text.whole.Covers t.source
  nonempty : t.source.text ≠ []
  tiles : Span.Tiles t.span.start t.span.stop (t.parts.map (·.span))
  content : ∃ before inner after, t.parts = before ++ ⟨.content, inner⟩ :: after ∧
    ∀ p ∈ before ++ after, p.role ≠ .content
  seams : ∀ p ∈ t.parts, SeamAt text p.span.start ∧ SeamAt text p.span.stop
  known : ∀ p ∈ t.parts, p.role.Known

abbrev Stops := List (Role × Cursor)

namespace Stops

def cuts (stops : Stops) : List Cut := stops.map fun (role, c) => ⟨role, c.offset⟩

def Along (d : Cursor) : Cursor → Stops → Prop
  | c, [] => c = d
  | c, (_, e) :: later => (∃ w, c.Walks w e) ∧ Along d e later

theorem Along.walk {c d : Cursor} {stops : Stops} (along : Along d c stops) :
    ∃ w, c.Walks w d := by
  induction stops generalizing c with
  | nil =>
      rw [Along] at along
      subst along
      exact ⟨[], .refl c⟩
  | cons stop later ih =>
      obtain ⟨⟨v, first⟩, rest⟩ := along
      obtain ⟨w, second⟩ := ih rest
      exact ⟨v ++ w, first.trans second⟩

theorem Along.ascending {c d : Cursor} {stops : Stops} (along : Along d c stops) :
    Part.Ascending d.offset c.offset stops.cuts ∧ Part.lastStop c.offset stops.cuts = d.offset := by
  induction stops generalizing c with
  | nil =>
      rw [Along] at along
      subst along
      exact ⟨trivial, rfl⟩
  | cons stop later ih =>
      obtain ⟨⟨v, first⟩, rest⟩ := along
      obtain ⟨w, second⟩ := rest.walk
      obtain ⟨ascending, last⟩ := ih rest
      exact ⟨⟨first.offset_le, second.offset_le, ascending⟩, last⟩

theorem Along.text {c d : Cursor} {stops : Stops} (along : Along d c stops) :
    ∀ stop ∈ stops, stop.2.text = c.text := by
  induction stops generalizing c with
  | nil => intro stop inside; cases inside
  | cons first later ih =>
      obtain ⟨⟨v, walk⟩, rest⟩ := along
      intro stop inside
      rcases List.mem_cons.mp inside with same | other
      · rw [same]
        exact walk.text
      · rw [ih rest stop other, walk.text]

/-- Cutting along cursors of the text cannot fail. -/
theorem tile_of_along (name : String) (c d : Cursor) (stops : Stops) (tail : Role)
    (along : Along d c (stops ++ [(tail, d)])) :
    Part.tile name ⟨c.offset, d.offset⟩ stops.cuts tail =
      .ok (Part.ofCuts c.offset (cuts (stops ++ [(tail, d)]))) := by
  have shape : cuts (stops ++ [(tail, d)]) = stops.cuts ++ [⟨tail, d.offset⟩] := by
    simp [cuts]
  have ascending := along.ascending.1
  rw [shape] at ascending ⊢
  exact Part.tile_of_ascending name ⟨c.offset, d.offset⟩ stops.cuts tail ascending

theorem mem_ofCuts_stops (start : Nat) (stops : Stops) (p : Part)
    (member : p ∈ Part.ofCuts start stops.cuts) :
    ∃ stop ∈ stops, p.role = stop.1 ∧ p.span.stop = stop.2.offset ∧
      (p.span.start = start ∨ ∃ other ∈ stops, p.span.start = other.2.offset) := by
  obtain ⟨cut, inside, role, stop, begins⟩ := Part.mem_ofCuts _ _ p member
  obtain ⟨place, present, rfl⟩ := List.mem_map.mp inside
  refine ⟨place, present, role, stop, ?_⟩
  rcases begins with first | ⟨other, elsewhere, later⟩
  · exact Or.inl first
  · obtain ⟨place', present', rfl⟩ := List.mem_map.mp elsewhere
    exact Or.inr ⟨place', present', later⟩

/-- The content keeps its part even when it is empty, and it is the only one. -/
theorem content_ofCuts (start : Nat) (before after : Stops) (inner : Cursor)
    (single : ∀ stop ∈ before ++ after, stop.1 ≠ .content) :
    ∃ former latter,
      Part.ofCuts start (cuts (before ++ (.content, inner) :: after)) =
        former ++ ⟨.content, ⟨Part.lastStop start (cuts before), inner.offset⟩⟩ :: latter ∧
      ∀ p ∈ former ++ latter, p.role ≠ .content := by
  have shape : cuts (before ++ (.content, inner) :: after) =
      cuts before ++ ⟨.content, inner.offset⟩ :: cuts after := by simp [cuts]
  have kept : Part.ofCut (Part.lastStop start (cuts before)) ⟨.content, inner.offset⟩ =
      [⟨.content, ⟨Part.lastStop start (cuts before), inner.offset⟩⟩] := by
    simp [Part.ofCut]
  refine ⟨Part.ofCuts start (cuts before), Part.ofCuts inner.offset (cuts after), ?_, ?_⟩
  · rw [shape, Part.ofCuts_append, Part.ofCuts, kept]
    rfl
  · intro p member
    rcases List.mem_append.mp member with left | right
    · obtain ⟨stop, there, role, _⟩ := mem_ofCuts_stops _ before p left
      rw [role]
      exact single stop (List.mem_append_left _ there)
    · obtain ⟨stop, there, role, _⟩ := mem_ofCuts_stops _ after p right
      rw [role]
      exact single stop (List.mem_append_right _ there)

theorem contentSpan?_of_parts (t : Token) (start : Nat) (before after : Stops) (inner : Cursor)
    (single : ∀ stop ∈ before ++ after, stop.1 ≠ .content)
    (parts : t.parts = Part.ofCuts start (cuts (before ++ (.content, inner) :: after))) :
    t.contentSpan? = some ⟨Part.lastStop start (cuts before), inner.offset⟩ := by
  obtain ⟨former, latter, shape, others⟩ := content_ofCuts start before after inner single
  have passed : former.find? (·.role == .content) = none := by
    rw [List.find?_eq_none]
    intro p member
    simpa using others p (List.mem_append_left _ member)
  rw [Token.contentSpan?, parts, shape, List.find?_append, passed]
  rfl

theorem wellCut_of_along (t : Token) (c d : Cursor) (before after : Stops) (inner : Cursor)
    (along : Along d c (before ++ (.content, inner) :: after))
    (moved : c.offset < d.offset) (source : t.source = c.excerptTo d)
    (parts : t.parts = Part.ofCuts c.offset (cuts (before ++ (.content, inner) :: after)))
    (seamed : c.seam = true ∧ ∀ stop ∈ before ++ (.content, inner) :: after, stop.2.seam = true)
    (single : ∀ stop ∈ before ++ after, stop.1 ≠ .content)
    (known : ∀ stop ∈ before ++ (.content, inner) :: after, stop.1.Known) :
    t.WellCut c.text := by
  obtain ⟨w, walk⟩ := along.walk
  rw [walk.excerptTo] at source
  have spans : t.span = ⟨c.offset, d.offset⟩ := by
    simp [Token.span, source, Excerpt.span, Excerpt.stop, walk.offset]
  constructor
  case covered =>
    rw [source]
    exact walk.covers
  case nonempty =>
    rw [source]
    exact walk.offset_lt_iff.mp moved
  case tiles =>
    rw [spans, parts, ← along.ascending.2]
    exact Part.tiles_ofCuts _ _ _ along.ascending.1
  case content =>
    obtain ⟨former, latter, shape, others⟩ := content_ofCuts c.offset before after inner single
    exact ⟨former, _, latter, parts.trans shape, others⟩
  case seams =>
    intro p member
    rw [parts] at member
    obtain ⟨place, present, _, stop, begins⟩ := mem_ofCuts_stops _ _ p member
    have at' : ∀ other ∈ before ++ (.content, inner) :: after, SeamAt c.text other.2.offset :=
      fun other there => ⟨other.2, along.text other there, rfl, seamed.2 other there⟩
    refine ⟨?_, stop ▸ at' place present⟩
    -- The first part begins where the match begins; any other where one before it ends.
    rcases begins with first | ⟨other, there, start⟩
    · exact first ▸ ⟨c, rfl, rfl, seamed.1⟩
    · exact start ▸ at' other there
  case known =>
    intro p member
    rw [parts] at member
    obtain ⟨place, present, role, _⟩ := mem_ofCuts_stops _ _ p member
    rw [role]
    exact known place present

end Stops

end MarkdownHighlight
