import MarkdownHighlight.Proofs.Claim.Members
import MarkdownHighlight.Proofs.Claim.Seek
import MarkdownHighlight.Proofs.Grammar.Parts
import MarkdownHighlight.Proofs.Regex.Automaton

/-!
A scan that counts in bytes comes to an end. It goes on from a number of bytes, and that number
comes from four sources: the character behind an empty match, the end of an accepted match, the
end of the code around a rejected one, or one character further. Whatever the expression and the
claims are, each round makes the number larger, so there are no more rounds than bytes and one;
the text is only cut between characters; and where the claims begin and end between characters,
so does every round. The scan that keeps a cursor is this one.
-/

namespace MarkdownHighlight

inductive Halt where
  | failed (cause : HighlightError)
  /-- The text was to be cut within a character, or behind its end. -/
  | uncut (place : Nat)
  /-- There are more rounds than allowed. -/
  | exhausted
  deriving DecidableEq, Repr

namespace Text

/-- The place behind the character at a place, and at the end of the text one further. -/
def after (text : Text) (place : Nat) : Except Halt Nat :=
  if (text.takeBytes place).size = place then
    .ok (place + ((text.dropBytes place).head?.map Char.utf8Size).getD 1)
  else .error (.uncut place)

/-- Where a scan may stand: between two characters, at an end of the text, or one behind it. -/
def Scannable (text : Text) (place : Nat) : Prop :=
  text.whole.CutAt place ∨ place = text.size + 1

end Text

def ClaimIndex.placeAfter (index : ClaimIndex) (text : Text) (start : Nat) : Except Halt Nat :=
  match index.codeEnd? start with
  | some place => .ok place
  | none => text.after start

structure Stage where
  index : ClaimIndex
  place : Nat

namespace Pattern

def byteRound (p : Pattern) (text : Text) (index : ClaimIndex) (m : Match) : Except Halt Stage := do
  if m.isEmpty then
    return ⟨index, ← text.after m.start.offset⟩
  else
    let candidate ← (p.extract m.captures).mapError .failed
    if index.fits candidate then
      return ⟨index.insert candidate, m.stop.offset⟩
    else
      return ⟨index, ← index.placeAfter text m.start.offset⟩

def byteScan (p : Pattern) (text : Text) : Nat → Stage → Except Halt ClaimIndex
  | rounds, s =>
      match p.matchFrom? text s.place with
      | none => .ok s.index
      | some m =>
          match rounds with
          | 0 => .error .exhausted
          | rounds + 1 => do p.byteScan text rounds (← p.byteRound text s.index m)

def stageAfter? (p : Pattern) (text : Text) (first : Stage) : Nat → Option Stage
  | 0 => some first
  | rounds + 1 => do
      let s ← p.stageAfter? text first rounds
      let m ← p.matchFrom? text s.place
      (p.byteRound text s.index m).toOption

end Pattern

namespace Cursor

theorem after_offset (c : Cursor) :
    c.text.after c.offset = .ok (c.offset + (c.next?.map Char.utf8Size).getD 1) := by
  have before : c.offset = Text.size c.before.reverse := by rw [size_reverse, c.offset_eq]
  rw [Text.after, text, before, Text.takeBytes_append, Text.dropBytes_append, if_pos rfl]
  rfl

theorem after_of_forward? {c next : Cursor} (step : c.forward? = some next) :
    c.text.after c.offset = .ok next.offset := by
  obtain ⟨ch, walk⟩ := (forward?_eq_some_iff c next).mp step
  rw [after_offset, walk.next?, walk.offset]
  rfl

theorem after_at_end {c : Cursor} (ended : c.rest = []) :
    c.text.after c.offset = .ok (c.text.size + 1) := by
  have last : c.offset = c.text.size := by
    rw [text, ended, List.append_nil, size_reverse, c.offset_eq]
  rw [after_offset, next?, ended, last]
  rfl

end Cursor

theorem Regex.search?_inOrder {r : Regex} {c : Cursor} {m : Match} (found : r.search? c = some m) :
    c.InOrder m.start m.stop := by
  have searched := r.search?_spec c
  rw [found] at searched
  obtain ⟨d, ⟨ahead, _⟩, here⟩ := searched
  rw [matchAt?_eq_head?] at here
  obtain ⟨q, first, rfl⟩ := Option.map_eq_some_iff.mp here
  obtain ⟨w, walk, _⟩ := outcomes_walk r _ q (List.mem_of_head? first)
  exact ⟨ahead, w, walk⟩

theorem Pattern.search?_inOrder {p : Pattern} {c : Cursor} {m : Match}
    (found : p.search? c = some m) : c.InOrder m.start m.stop := by
  rw [search?] at found
  cases kind : p.automaton? with
  | none =>
      rw [kind] at found
      exact Regex.search?_inOrder found
  | some automaton =>
      rw [kind] at found
      exact Automaton.search?_inOrder found

def ClaimIndex.Sliceable (text : Text) (index : ClaimIndex) : Prop :=
  ∀ t ∈ index.tokens, text.whole.Sliceable t.span

/-- Where a scan goes on after a match that starts at a cursor or behind it: from a larger place,
and from the cursor there unless the text has ended. -/
structure Cursor.Leads (c : Cursor) (index : ClaimIndex) (resume? : Option Cursor)
    (place : Nat) : Prop where
  later : c.offset < place
  scannable : index.Sliceable c.text → c.text.Scannable place
  resumes : match resume? with
    | none => c.text.size < place
    | some next => next = c.text.cursorAt place ∧ next.rest.length < c.rest.length

namespace Cursor

variable {c d : Cursor} {index : ClaimIndex} {w : Text} {place : Nat}

theorem Leads.back {resume? : Option Cursor} (leads : d.Leads index resume? place)
    (walk : c.Walks w d) : c.Leads index resume? place := by
  obtain ⟨later, scannable, resumes⟩ := leads
  rw [walk.text] at scannable resumes
  refine ⟨Nat.lt_of_le_of_lt walk.offset_le later, scannable, ?_⟩
  cases resume? with
  | none => exact resumes
  | some next =>
      have := walk.length
      exact ⟨resumes.1, by omega⟩

theorem leads_after (c : Cursor) (index : ClaimIndex) : ∃ place,
    c.text.after c.offset = .ok place ∧ c.Leads index c.forward? place := by
  cases step : c.forward? with
  | none =>
      have before := c.offset_add_rest
      have ended := (forward?_eq_none_iff c).mp step
      exact ⟨_, after_at_end ended, by omega, fun _ => Or.inr rfl, Nat.lt_succ_self _⟩
  | some next =>
      obtain ⟨ch, walk⟩ := (forward?_eq_some_iff c next).mp step
      have shorter := rest_of_forward? step
      refine ⟨_, after_of_forward? step, ?_, fun _ => Or.inl ?_, ?_, by omega⟩
      · exact walk.offset_lt_iff.mpr (List.cons_ne_nil _ _)
      · exact walk.text ▸ next.cutAt
      · exact (Text.cursorAt_offset walk.text).symm

theorem leads_over (walk : c.Walks w d) (some : w ≠ []) :
    c.Leads index (.some d) d.offset where
  later := walk.offset_lt_iff.mpr some
  scannable := fun _ => Or.inl (walk.text ▸ d.cutAt)
  resumes := ⟨(Text.cursorAt_offset walk.text).symm, walk.length_lt some⟩

theorem leads_codeEnd (some : c.rest ≠ []) (code : index.codeEnd? c.offset = .some place) :
    c.Leads index (.some (c.seek place)) place := by
  obtain ⟨later, t, present, rfl⟩ := ClaimIndex.of_codeEnd? code
  refine ⟨later, fun sliceable => Or.inl (sliceable t present).last, ?_, ?_⟩
  · exact Text.cursorAt_of_seek rfl (Nat.le_of_lt later)
  · exact c.seek_moves _ later some

theorem leads_placeAfter (index : ClaimIndex) (some : c.rest ≠ []) : ∃ place,
    index.placeAfter c.text c.offset = .ok place ∧
      c.Leads index (Round.resumeAfter index c) place := by
  rw [ClaimIndex.placeAfter, Round.resumeAfter]
  cases code : index.codeEnd? c.offset with
  | none => exact c.leads_after index
  | some stop => exact ⟨stop, rfl, leads_codeEnd some code⟩

end Cursor

theorem Match.isEmpty_iff {m : Match} {w : Text} (walk : m.start.Walks w m.stop) :
    m.isEmpty = true ↔ w = [] := by
  have width := walk.offset
  rw [isEmpty, beq_iff_eq]
  constructor
  · intro same
    exact Text.eq_nil_of_size_eq_zero w (by omega)
  · rintro rfl
    rw [walk.eq_of_nil]

/-- All that a round with a match does, counted in bytes and with a cursor: its token is refused
by the pattern, or the round leads on. -/
theorem Pattern.byteRound_spec (p : Pattern) (index : ClaimIndex) {c : Cursor} {m : Match}
    (order : c.InOrder m.start m.stop) :
    (∃ cause, m.isEmpty = false ∧ p.extract m.captures = .error cause ∧
      Round.ofMatch p index m = .error cause ∧
      p.byteRound c.text index m = .error (.failed cause)) ∨
    ∃ round place, Round.ofMatch p index m = .ok round ∧
      p.byteRound c.text index m = .ok ⟨round.index, place⟩ ∧
      c.Leads index round.resume? place ∧
      (round.index = index ∨
        ∃ t, p.extract m.captures = .ok t ∧ round.index = index.insert t) := by
  obtain ⟨⟨v, ahead⟩, w, onward⟩ := order
  cases empty : m.isEmpty with
  | true =>
      obtain ⟨place, after, leads⟩ := m.start.leads_after index
      rw [ahead.text] at after
      refine Or.inr ⟨⟨index, m.start.forward?⟩, place, ?_, ?_, leads.back ahead, Or.inl rfl⟩
      · simp [Round.ofMatch, empty, pure, Except.pure]
      · simp [byteRound, empty, after, bind, Except.bind, pure, Except.pure]
  | false =>
      have some : w ≠ [] := by
        rw [ne_eq, ← Match.isEmpty_iff onward, empty]
        exact Bool.false_ne_true
      cases extracted : p.extract m.captures with
      | error cause =>
          refine Or.inl ⟨cause, rfl, rfl, ?_, ?_⟩
          · simp [Round.ofMatch, empty, extracted, bind, Except.bind]
          · simp [byteRound, empty, extracted, bind, Except.bind, Except.mapError]
      | ok t =>
          right
          by_cases fit : index.fits t = true
          · have leads : c.Leads index m.stop m.stop.offset :=
              (Cursor.leads_over onward some).back ahead
            refine ⟨⟨index.insert t, m.stop⟩, m.stop.offset, ?_, ?_, leads, Or.inr ⟨t, rfl, rfl⟩⟩
            · simp [Round.ofMatch, empty, extracted, fit, bind, Except.bind, pure, Except.pure]
            · simp [byteRound, empty, extracted, fit, bind, Except.bind, pure, Except.pure,
                Except.mapError]
          · have more : m.start.rest ≠ [] := by
              rw [onward.rest_eq]
              exact List.append_ne_nil_of_left_ne_nil some _
            obtain ⟨place, after, leads⟩ := Cursor.leads_placeAfter index more
            rw [ahead.text] at after
            refine ⟨⟨index, Round.resumeAfter index m.start⟩, place, ?_, ?_, leads.back ahead,
              Or.inl rfl⟩
            · simp [Round.ofMatch, empty, extracted, fit, bind, Except.bind, pure, Except.pure]
            · simp [byteRound, empty, extracted, fit, after, bind, Except.bind, pure, Except.pure,
                Except.mapError]

namespace Pattern

variable {p : Pattern} {text : Text}

theorem matchFrom?_eq_some_iff {place : Nat} {m : Match} :
    p.matchFrom? text place = some m ↔
      place ≤ text.size ∧ p.search? (text.cursorAt place) = some m := by
  rw [matchFrom?, ← Nat.not_lt]
  split
  · rename_i behind
    simp [behind]
  · rename_i within
    simp [within, Text.cursorAt]

theorem byteScan_of_none {rounds : Nat} {s : Stage} (found : p.matchFrom? text s.place = none) :
    p.byteScan text rounds s = .ok s.index := by
  unfold byteScan
  rw [found]

theorem byteScan_of_some {rounds : Nat} {s : Stage} {m : Match}
    (found : p.matchFrom? text s.place = some m) :
    p.byteScan text (rounds + 1) s = p.byteRound text s.index m >>= p.byteScan text rounds := by
  rw [byteScan, found]

theorem scanWithin_of_last {index last : ClaimIndex} {c : Cursor} (fuel : Text)
    (ran : p.round index c = .ok ⟨last, none⟩) : p.scanWithin fuel index c = .ok last := by
  cases fuel with
  | nil =>
      rw [scanWithin, ran]
      rfl
  | cons ch later =>
      rw [scanWithin, ran]
      rfl

theorem scanWithin_of_error {index : ClaimIndex} {c : Cursor} {cause : HighlightError}
    (fuel : Text) (ran : p.round index c = .error cause) :
    p.scanWithin fuel index c = .error cause := by
  cases fuel with
  | nil =>
      rw [scanWithin, ran]
      rfl
  | cons ch later =>
      rw [scanWithin, ran]
      rfl

theorem round_of_search {index : ClaimIndex} {c : Cursor} {m : Match}
    (found : p.search? c = some m) : p.round index c = Round.ofMatch p index m := by
  rw [round, found]

theorem round_at_end (p : Pattern) (index : ClaimIndex) {c : Cursor} (ended : c.rest = []) :
    p.round index c = .ok ⟨index, none⟩ := by
  cases found : p.search? c with
  | none => rw [round, found]
  | some m =>
      obtain ⟨⟨v, ahead⟩, w, onward⟩ := search?_inOrder found
      have last : m.start.rest = [] :=
        (List.append_eq_nil_iff.mp (ahead.rest_eq.symm.trans ended)).2
      have none : w = [] := (List.append_eq_nil_iff.mp (onward.rest_eq.symm.trans last)).1
      rw [round_of_search found]
      simp [Round.ofMatch, (Match.isEmpty_iff onward).mpr none,
        (Cursor.forward?_eq_none_iff m.start).mpr last, pure, Except.pure]

theorem round_of_none {place : Nat} (index : ClaimIndex)
    (found : p.matchFrom? text place = none) :
    p.round index (text.cursorAt place) = .ok ⟨index, none⟩ := by
  by_cases behind : text.size < place
  · exact p.round_at_end index (Text.cursorAt_behind behind)
  · rw [matchFrom?, if_neg behind] at found
    rw [round, Text.cursorAt, found]

/-- The scan in bytes goes on as the scan with a cursor does, if enough rounds are allowed. -/
theorem byteScan_eq_scanWithin (rounds : Nat) (fuel : Text) (index : ClaimIndex) (place : Nat)
    (many : text.size < place + rounds)
    (enough : (text.cursorAt place).rest.length ≤ fuel.length) :
    p.byteScan text rounds ⟨index, place⟩ =
      (p.scanWithin fuel index (text.cursorAt place)).mapError .failed := by
  -- The two scans bound their rounds in different ways, by bytes and by characters that are left,
  -- so the fuel of the second only has to be enough each time.
  induction rounds generalizing fuel index place with
  | zero =>
      have found : p.matchFrom? text place = none := by
        rw [matchFrom?, if_pos (by omega)]
      rw [byteScan_of_none found, scanWithin_of_last fuel (round_of_none index found)]
      rfl
  | succ rounds ih =>
      cases found : p.matchFrom? text place with
      | none =>
          rw [byteScan_of_none found, scanWithin_of_last fuel (round_of_none index found)]
          rfl
      | some m =>
          obtain ⟨within, searched⟩ := matchFrom?_eq_some_iff.mp found
          have spec := p.byteRound_spec index (search?_inOrder searched)
          rw [Text.cursorAt_text, ← round_of_search searched] at spec
          rw [byteScan_of_some found]
          rcases spec with ⟨cause, _, _, ran, counted⟩ |
            ⟨⟨index', resume?⟩, place', ran, counted, leads, _⟩
          · rw [counted, scanWithin_of_error fuel ran]
            rfl
          · obtain ⟨later, _, resumes⟩ := leads
            rw [Text.cursorAt_text] at resumes
            have reached := Text.le_cursorAt within
            rw [counted]
            cases resume? with
            | none =>
                -- The cursor cannot move on; the place in bytes goes behind the text.
                have behind : p.matchFrom? text place' = none := by
                  rw [matchFrom?, if_pos resumes]
                rw [scanWithin_of_last fuel ran]
                exact byteScan_of_none behind
            | some next =>
                obtain ⟨rfl, shorter⟩ := resumes
                cases fuel with
                | nil =>
                    rw [List.length_nil] at enough
                    omega
                | cons ch rest =>
                    rw [List.length_cons] at enough
                    rw [scanWithin, ran]
                    exact ih rest index' place' (by omega) (by omega)

structure Progresses (p : Pattern) (text : Text) (index : ClaimIndex) (place : Nat)
    (m : Match) : Prop where
  /-- A match that is no token breaks the scan off, and nothing else does. -/
  halts : ∀ halt, p.byteRound text index m = .error halt →
    ∃ cause, m.isEmpty = false ∧ p.extract m.captures = .error cause ∧ halt = .failed cause
  later : ∀ next, p.byteRound text index m = .ok next → place < next.place
  /-- Between claims that split no character the scan goes on where none is split. -/
  scannable : index.Sliceable text →
    ∀ next, p.byteRound text index m = .ok next → text.Scannable next.place
  /-- The only token that is added is the one of the match. -/
  adds : ∀ next, p.byteRound text index m = .ok next →
    next.index = index ∨ ∃ t, p.extract m.captures = .ok t ∧ next.index = index.insert t

theorem progresses {index : ClaimIndex} {place : Nat} {m : Match}
    (found : p.matchFrom? text place = some m) : p.Progresses text index place m := by
  obtain ⟨within, searched⟩ := matchFrom?_eq_some_iff.mp found
  have spec := p.byteRound_spec index (search?_inOrder searched)
  rw [Text.cursorAt_text] at spec
  obtain ⟨cause, full, refused, _, halted⟩ | ⟨round, place', _, went, leads, added⟩ := spec
  · have never : ∀ next, p.byteRound text index m ≠ .ok next := by
      intro next
      rw [halted]
      nofun
    refine ⟨fun halt same => ⟨cause, full, refused, ?_⟩, ?_, ?_, ?_⟩
    · exact Except.error.inj (same.symm.trans halted)
    · exact fun next went => absurd went (never next)
    · exact fun _ next went => absurd went (never next)
    · exact fun next went => absurd went (never next)
  · obtain ⟨later, scannable, _⟩ := leads
    rw [Text.cursorAt_text] at scannable
    have only : ∀ next, p.byteRound text index m = .ok next → next = ⟨round.index, place'⟩ :=
      fun next same => Except.ok.inj (same.symm.trans went)
    refine ⟨?_, ?_, ?_, ?_⟩
    · intro halt halted
      cases halted.symm.trans went
    · intro next same
      rw [only next same]
      exact Nat.lt_of_le_of_lt (Text.le_cursorAt within) later
    · intro sliceable next same
      rw [only next same]
      exact scannable sliceable
    · intro next same
      rw [only next same]
      exact added

def Cuts (p : Pattern) (text : Text) : Prop :=
  ∀ place m t, p.matchFrom? text place = some m → p.extract m.captures = .ok t →
    text.whole.Sliceable t.span

theorem extraction_of_extract {c : Captures} {t : Token} (made : p.extract c = .ok t) :
    p.extraction c = .ok t := by
  rw [extract] at made
  cases answer : p.extraction c with
  | error cause =>
      rw [answer] at made
      cases made
  | ok u =>
      rw [answer] at made
      by_cases typed : u.type = p.type
      · rw [← made]
        exact (if_pos typed).symm
      · have refused := made.symm.trans (if_neg typed)
        cases refused

/-- An extraction that answers for whole matches makes stretches of the text, whatever the
expression is that it is joined with. -/
theorem cuts_of_answers {name : String} {type : TokenType}
    (answers : p.extraction.Answers name type) (text : Text) : p.Cuts text := by
  intro place m t found made
  obtain ⟨⟨v, ahead⟩, w, onward⟩ := search?_inOrder (matchFrom?_eq_some_iff.mp found).2
  have answered := answers m.captures
  rw [extraction_of_extract made] at answered
  have whole : m.start.excerptTo m.stop = t.source := Option.some.inj answered.whole
  have within : m.start.text = text := ahead.text.trans (text.cursorAt_text place)
  rw [Token.span, ← whole, onward.excerptTo, ← within]
  exact onward.covers.sliceable

section Run

variable {first s : Stage} {rounds : Nat}

theorem toOption_eq_some_iff {r : Except Halt Stage} : r.toOption = some s ↔ r = .ok s := by
  cases r <;> simp [Except.toOption]

theorem stageAfter?_succ {next : Stage} :
    p.stageAfter? text first (rounds + 1) = some next ↔ ∃ s m,
      p.stageAfter? text first rounds = some s ∧ p.matchFrom? text s.place = some m ∧
        p.byteRound text s.index m = .ok next := by
  simp only [stageAfter?, Option.bind_eq_bind, Option.bind_eq_some_iff, toOption_eq_some_iff]
  constructor
  · rintro ⟨s, ran, m, found, went⟩
    exact ⟨s, m, ran, found, went⟩
  · rintro ⟨s, m, ran, found, went⟩
    exact ⟨s, ran, m, found, went⟩

theorem rounds_le (ran : p.stageAfter? text first rounds = some s) :
    first.place + rounds ≤ s.place := by
  induction rounds generalizing s with
  | zero =>
      cases ran
      exact Nat.le_refl _
  | succ rounds ih =>
      obtain ⟨before, m, ran, found, went⟩ := stageAfter?_succ.mp ran
      have later := (progresses found).later s went
      have := ih ran
      omega

theorem rounds_le_size (ran : p.stageAfter? text first rounds = some s) :
    rounds ≤ text.size + 1 := by
  cases rounds with
  | zero => exact Nat.zero_le _
  | succ rounds =>
      obtain ⟨before, m, ran, found, _⟩ := stageAfter?_succ.mp ran
      have passed := rounds_le ran
      have within := (matchFrom?_eq_some_iff.mp found).1
      omega

theorem stageAfter?_scannable (cuts : p.Cuts text) (known : first.index.Sliceable text)
    (begun : text.Scannable first.place) (ran : p.stageAfter? text first rounds = some s) :
    s.index.Sliceable text ∧ text.Scannable s.place := by
  induction rounds generalizing s with
  | zero =>
      cases ran
      exact ⟨known, begun⟩
  | succ rounds ih =>
      obtain ⟨before, m, ran, found, went⟩ := stageAfter?_succ.mp ran
      have sliceable := (ih ran).1
      refine ⟨?_, (progresses found).scannable sliceable s went⟩
      rcases (progresses found).adds s went with same | ⟨t, made, inserted⟩
      · rwa [same]
      · rw [inserted]
        exact ClaimIndex.forall_tokens_insert sliceable (cuts _ m t found made)

end Run

/-- A scan makes progress. From every place and with any claims, a round that has found a match
goes on from a larger place or meets a match that is no token; it never cuts a character, and
where the claims begin and end between characters the larger place is between characters too, or
one behind the text. So a scan in bytes needs at most one round more than the text has bytes; it
is the scan with a cursor; and with tokens that are stretches of the text, as those of the
grammar are whatever the expression is, all its places are of that kind. -/
theorem scan_progresses (p : Pattern) (text : Text) :
    (∀ index place m, p.matchFrom? text place = some m → p.Progresses text index place m) ∧
      (∀ q ∈ Grammar.markdown, p.extraction = q.extraction → p.Cuts text) ∧
      ∀ initial : ClaimIndex,
        p.byteScan text (text.size + 1) ⟨initial, 0⟩ = (p.scan text initial).mapError .failed ∧
        ∀ rounds s, p.stageAfter? text ⟨initial, 0⟩ rounds = some s →
          rounds ≤ s.place ∧ rounds ≤ text.size + 1 ∧
          (p.Cuts text → initial.Sliceable text →
            s.index.Sliceable text ∧ text.Scannable s.place) := by
  refine ⟨fun _ _ _ found => progresses found, ?_, fun initial => ⟨?_, ?_⟩⟩
  · intro q listed same
    have answers := Grammar.markdown_answers q listed
    rw [← same] at answers
    exact cuts_of_answers answers text
  · have start : text.cursorAt 0 = .atStart text := Text.cursorAt_offset (Cursor.atStart_text text)
    have many : text.size < 0 + (text.size + 1) := by omega
    rw [byteScan_eq_scanWithin _ text initial 0 many (by rw [start]; exact Nat.le_refl _), start]
    rfl
  · intro rounds s ran
    have passed := rounds_le ran
    rw [Nat.zero_add] at passed
    refine ⟨passed, rounds_le_size ran, fun cuts known => ?_⟩
    exact stageAfter?_scannable cuts known (Or.inl ⟨[], text, rfl, rfl⟩) ran

/-- An expression that also matches the empty text, on a text that begins with code: two of the
four rounds match nothing, one is turned away from the code, one is accepted. -/
theorem scan_progresses_around_code :
    let text : Text := "`!é!`!b!".toList
    let p : Pattern := ⟨"strikethrough", .strikethrough, "(?:(!)((?s:.))!)?",
      .optional true (.concat [.group 1 (.char '!'), .group 2 (.one .any), .char '!']), none,
      .strikethrough⟩
    let code : Token := ⟨.codeInline "!é!".toList, ⟨0, "`!é!`".toList⟩,
      [⟨.marker, ⟨0, 1⟩⟩, ⟨.content, ⟨1, 5⟩⟩, ⟨.marker, ⟨5, 6⟩⟩]⟩
    let struck : Token := ⟨.strikethrough ['b'] ['!'], ⟨6, "!b!".toList⟩,
      [⟨.marker, ⟨6, 7⟩⟩, ⟨.content, ⟨7, 8⟩⟩, ⟨.marker, ⟨8, 9⟩⟩]⟩
    let initial := ClaimIndex.empty.insert code
    p.Cuts text ∧ initial.Sliceable text ∧
      (∃ m next, p.matchFrom? text 1 = some m ∧ p.byteRound text initial m = .ok next ∧
        next.place = 6 ∧ text.Scannable next.place) ∧
      ∃ last, p.stageAfter? text ⟨initial, 0⟩ 4 = some last ∧ last.place = 10 ∧
        last.index.tokens = [code, struck] ∧ 4 ≤ text.size + 1 ∧
        last.index.Sliceable text ∧ text.Scannable last.place := by
  intro text p code struck initial
  have covered : text.whole.Covers code.source := ⟨[], "!b!".toList, rfl, rfl⟩
  have known : initial.Sliceable text := List.forall_mem_singleton.mpr covered.sliceable
  obtain ⟨rounds, grammar, runs⟩ := scan_progresses p text
  have cuts : p.Cuts text :=
    grammar Grammar.strikethrough (by simp [Grammar.markdown]) rfl
  obtain ⟨m, found, turned⟩ : ∃ m, p.matchFrom? text 1 = some m ∧
      (p.byteRound text initial m).toOption.map (·.place) = some 6 :=
    Option.bind_eq_some_iff.mp (by decide +kernel)
  obtain ⟨next, went, six⟩ := Option.map_eq_some_iff.mp turned
  rw [toOption_eq_some_iff] at went
  obtain ⟨last, ran, same⟩ : ∃ last, p.stageAfter? text ⟨initial, 0⟩ 4 = some last ∧
      (last.place, last.index.tokens) = (10, [code, struck]) :=
    Option.map_eq_some_iff.mp (by decide +kernel)
  obtain ⟨ten, both⟩ := Prod.mk.inj same
  obtain ⟨_, few, ends⟩ := (runs initial).2 4 last ran
  have onward := (rounds initial 1 m found).scannable known next went
  exact ⟨cuts, known, ⟨m, next, found, went, six, onward⟩, last, ran, ten, both, few,
    ends cuts known⟩

end Pattern

end MarkdownHighlight
