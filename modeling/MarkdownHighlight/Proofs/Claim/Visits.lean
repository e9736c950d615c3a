import MarkdownHighlight.Proofs.Claim.Scan

/-!
The places that a scan goes through. Every one of them stands between two
characters of the text, also where the scan passes over code: the code is a
token of the text and ends at a cursor, so a place that is looked for is found.
-/

namespace MarkdownHighlight

/-- A span that can be cut out of an excerpt: its ends are in order, lie within
the excerpt and split no character. -/
structure Excerpt.Sliceable (e : Excerpt) (s : Span) : Prop where
  order : s.start ≤ s.stop
  first : e.CutAt s.start
  last : e.CutAt s.stop

theorem Excerpt.Covers.sliceable {outer inner : Excerpt} (covered : outer.Covers inner) :
    outer.Sliceable inner.span := by
  obtain ⟨lead, tail, text, start⟩ := covered
  constructor
  · exact Nat.le_add_right _ _
  · exact ⟨lead, inner.text ++ tail, by simp [text], start⟩
  · exact ⟨lead ++ inner.text, tail, text, by simp [span, stop, start, Nat.add_assoc]⟩

namespace Cursor

theorem cutAt (c : Cursor) : c.text.whole.CutAt c.offset :=
  ⟨c.before.reverse, c.rest, rfl, by simp [Text.whole, size_reverse, c.offset_eq]⟩

theorem seekWithin_of_walk {c d : Cursor} {w : Text} (walk : c.Walks w d) (fuel : Text)
    (enough : w.length ≤ fuel.length) : seekWithin d.offset fuel c = d := by
  induction w generalizing c fuel with
  | nil =>
      rw [walk.eq_of_nil]
      cases fuel with
      | nil => rfl
      | cons _ later => rw [seekWithin, if_pos (Nat.le_refl _)]
  | cons ch w ih =>
      cases fuel with
      | nil => simp at enough
      | cons _ later =>
          have early := walk.offset_lt_iff.mpr (List.cons_ne_nil ch w)
          obtain ⟨next, step, onward⟩ := walk.uncons
          rw [seekWithin, if_neg (Nat.not_le.mpr early), step]
          exact ih onward later (Nat.le_of_succ_le_succ enough)

theorem seek_of_walk {c d : Cursor} {w : Text} (walk : c.Walks w d) : c.seek d.offset = d :=
  seekWithin_of_walk walk c.rest (by rw [walk.length]; exact Nat.le_add_right _ _)

end Cursor

theorem Excerpt.CutAt.le {text : Text} {place : Nat} (cut : text.whole.CutAt place) :
    place ≤ text.size := by
  obtain ⟨lead, tail, rfl, rfl⟩ := cut
  simp [Text.whole]

theorem Pattern.matchFrom?_of_cutAt (p : Pattern) {text : Text} {place : Nat}
    (cut : text.whole.CutAt place) :
    ∃ c : Cursor, c.text = text ∧ c.offset = place ∧ p.matchFrom? text place = p.search? c := by
  have within := cut.le
  obtain ⟨lead, tail, split, rfl⟩ := cut
  obtain ⟨c, walk, _⟩ := (Cursor.atStart text).exists_walk lead tail split
  have offset : c.offset = text.whole.start + lead.size := walk.offset
  refine ⟨c, walk.text, offset, ?_⟩
  rw [matchFrom?, if_neg (Nat.not_lt.mpr within), ← offset, Cursor.seek_of_walk walk]

inductive Pattern.Visits (p : Pattern) (text : Text) (initial : ClaimIndex) :
    ClaimIndex → Cursor → Prop
  | start : p.Visits text initial initial (.atStart text)
  | round {index : ClaimIndex} {c next : Cursor} {round : Round}
      (visited : p.Visits text initial index c) (ran : p.round index c = .ok round)
      (resumed : round.resume? = some next) : p.Visits text initial round.index next

structure ClaimIndex.CutFrom (text : Text) (index : ClaimIndex) : Prop where
  valid : index.Valid
  wellCut : ∀ t ∈ index.tokens, t.WellCut text

/-- A place of a scan: the scan can search from it and go on, and what it passes
over then can be cut out of the text. -/
structure Pattern.Passable (p : Pattern) (text : Text) (index : ClaimIndex) (c : Cursor) :
    Prop where
  within : c.text = text
  runs : ∃ round, p.round index c = .ok round
  resumes : ∀ m, p.search? c = some m → ∀ place, index.codeEnd? m.start.offset = some place →
    text.whole.Sliceable ⟨m.start.offset, place⟩

namespace ClaimIndex.CutFrom

variable {text : Text} {index : ClaimIndex}

theorem insert (cut : index.CutFrom text) {t : Token} (wellCut : t.WellCut text)
    (fit : index.fits t = true) : (index.insert t).CutFrom text := by
  have nests := (cut.valid.fits_iff t).mp fit
  obtain ⟨valid, before, after, old, new⟩ := cut.valid.insert wellCut.solid nests
  refine ⟨valid, fun u present => ?_⟩
  rw [new] at present
  rcases List.mem_append.mp present with ahead | behind
  · exact cut.wellCut u (by simp [old, ahead])
  · rcases List.mem_cons.mp behind with rfl | behind
    · exact wellCut
    · exact cut.wellCut u (by simp [old, behind])

theorem sliceable_of_codeEnd? (cut : index.CutFrom text) {c : Cursor} (within : c.text = text)
    {place : Nat} (found : index.codeEnd? c.offset = some place) :
    text.whole.Sliceable ⟨c.offset, place⟩ := by
  obtain ⟨code, present, _, _, beyond, rfl⟩ := cut.valid.code_of_codeEnd? found
  have wellCut := cut.wellCut code.token (by
    rw [ClaimIndex.tokens_eq]
    exact List.mem_map_of_mem present)
  constructor
  · exact Nat.le_of_lt beyond
  · exact within ▸ c.cutAt
  · exact wellCut.covered.sliceable.last

variable {p : Pattern} {c : Cursor}

theorem passable (cut : index.CutFrom text) (lawful : p.Lawful) (within : c.text = text) :
    p.Passable text index c := by
  refine ⟨within, ?_, ?_⟩
  · rcases round_cases lawful index c with ⟨ran, _⟩ | ⟨_, _, _, _, _, _, ran⟩
    · exact ⟨_, ran⟩
    · exact ⟨_, ran⟩
  · intro m found place code
    have searched := p.regex.search?_spec c
    rw [search?_of_lawful lawful] at found
    rw [found] at searched
    obtain ⟨d, ⟨⟨w, walk⟩, _⟩, here⟩ := searched
    obtain ⟨t, reads⟩ := lawful.reads d m here
    rw [reads.start] at code ⊢
    exact cut.sliceable_of_codeEnd? (walk.text.trans within) code

/-- What a round leaves behind is again an index of the text and a place in it. -/
theorem round (cut : index.CutFrom text) (lawful : p.Lawful) (within : c.text = text)
    {round : Round} (ran : p.round index c = .ok round) :
    round.index.CutFrom text ∧ ∀ next, round.resume? = some next → next.text = text := by
  rcases round_cases lawful index c with
    ⟨ended, _⟩ | ⟨d, m, t, ⟨⟨v, there⟩, _⟩, here, reads, onward⟩
  · cases ran.symm.trans ended
    exact ⟨cut, nofun⟩
  · have place : d.text = text := there.text.trans within
    by_cases fit : index.fits t = true
    · rw [if_pos fit] at onward
      cases ran.symm.trans onward
      refine ⟨cut.insert (place ▸ reads.wellCut) fit, ?_⟩
      rintro next ⟨⟩
      obtain ⟨w, walk⟩ := reads.walk
      exact walk.text.trans place
    · rw [if_neg fit] at onward
      cases ran.symm.trans onward
      refine ⟨cut, fun next resumed => ?_⟩
      -- Either the scan passes over code, or it moves on by one character.
      simp only [Round.resumeAfter] at resumed
      cases code : index.codeEnd? d.offset with
      | some stop =>
          simp only [code, Option.some.injEq] at resumed
          obtain ⟨⟨w, walk⟩, _⟩ := d.seek_passes stop
          rw [← resumed, walk.text, place]
      | none =>
          simp only [code] at resumed
          obtain ⟨ch, walk⟩ := (Cursor.forward?_eq_some_iff d next).mp resumed
          rw [walk.text, place]

/-- Along the whole scan the claims are tokens of the text and the places lie in it. -/
theorem visits {initial : ClaimIndex} (cut : initial.CutFrom text) (lawful : p.Lawful)
    (visited : p.Visits text initial index c) : index.CutFrom text ∧ c.text = text := by
  induction visited with
  | start => exact ⟨cut, Cursor.atStart_text text⟩
  | round _ ran resumed ih =>
      obtain ⟨kept, within⟩ := ih.1.round lawful ih.2 ran
      exact ⟨kept, within _ resumed⟩

end ClaimIndex.CutFrom

theorem claimAll_cutFrom (patterns : List Pattern) (lawful : ∀ p ∈ patterns, p.Lawful)
    (text : Text) : ∃ index, claimAll patterns text = .ok index ∧ index.CutFrom text := by
  obtain ⟨index, claimed, mirrors⟩ := claimAll_mirrors patterns lawful text
  refine ⟨index, claimed, mirrors.valid, fun t present => ?_⟩
  have nested := Plain.accept_nested patterns lawful text
  obtain ⟨p, _, c, m, rfl, _, reads⟩ := nested.sourced t (mirrors.same.mem_iff.mp present)
  exact reads.wellCut

end MarkdownHighlight
