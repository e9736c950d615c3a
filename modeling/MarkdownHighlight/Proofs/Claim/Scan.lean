import MarkdownHighlight.Proofs.Claim.Index
import MarkdownHighlight.Proofs.Claim.Plain
import MarkdownHighlight.Claim.Scan
import MarkdownHighlight.Token.Tree

/-!
The scan with its index accepts what the plain scan accepts. A search lands on
the first match, where the plain scan gets step by step; an accepted token enters
the index and the list alike; and what is passed over after a rejected match lies
inside code, where nothing nests.
-/

namespace MarkdownHighlight

theorem Token.contentSpan?_of_parts {t : Token} {before after : List Part} {inner : Span}
    (parts : t.parts = before ++ ⟨.content, inner⟩ :: after)
    (first : ∀ p ∈ before, p.role ≠ .content) : t.contentSpan? = some inner := by
  have skipped : before.find? (·.role == .content) = none :=
    List.find?_eq_none.mpr fun p inside => by simpa using first p inside
  simp [Token.contentSpan?, parts, List.find?_append, skipped]

theorem Token.WellCut.contentSpan?_eq {text : Text} {t : Token} (wellCut : t.WellCut text) :
    ∃ before inner after, t.parts = before ++ ⟨.content, inner⟩ :: after ∧
      t.contentSpan? = some inner := by
  obtain ⟨before, inner, after, parts, single⟩ := wellCut.content
  exact ⟨before, inner, after, parts,
    contentSpan?_of_parts parts fun p inside => single p (List.mem_append_left _ inside)⟩

theorem Token.WellCut.contentSpan?_of_role {text : Text} {t : Token} (wellCut : t.WellCut text)
    (p : Part) (member : p ∈ t.parts) (role : p.role = .content) :
    t.contentSpan? = some p.span := by
  obtain ⟨before, inner, after, parts, single⟩ := wellCut.content
  rw [contentSpan?_of_parts parts fun p inside => single p (List.mem_append_left _ inside)]
  rw [parts] at member
  rcases List.mem_append.mp member with first | other
  · exact absurd role (single p (List.mem_append_left _ first))
  · rcases List.mem_cons.mp other with here | last
    · rw [here]
    · exact absurd role (single p (List.mem_append_right _ last))

theorem Token.WellCut.solid {text : Text} {t : Token} (wellCut : t.WellCut text) : t.Solid where
  nonempty := by
    have := Text.size_pos_of_ne_nil _ wellCut.nonempty
    simp only [Token.span, Excerpt.span, Excerpt.stop]
    omega
  content := by
    intro inner same
    obtain ⟨before, own, after, parts, found⟩ := wellCut.contentSpan?_eq
    obtain rfl := Option.some.inj (same.symm.trans found)
    have member : inner ∈ t.parts.map (·.span) := by simp [parts]
    have := wellCut.tiles.inside inner member
    rw [Span.contains_iff]
    omega

def Cursor.Passes (c : Cursor) (passed : Cursor → Prop) (d : Cursor) : Prop :=
  (∃ w, c.Walks w d) ∧ ∀ v e u, c.Walks v e → e.Walks u d → u ≠ [] → passed e

namespace Cursor.Passes

variable {passed : Cursor → Prop}

theorem refl (c : Cursor) : c.Passes passed c := by
  refine ⟨⟨[], .refl c⟩, fun v e u there back some => ?_⟩
  have first := there.length
  have second := back.length
  have := List.length_pos_iff.mpr some
  omega

theorem cons {c next d : Cursor} (step : c.forward? = some next) (here : passed c)
    (later : next.Passes passed d) : c.Passes passed d := by
  obtain ⟨⟨w, walk⟩, between⟩ := later
  obtain ⟨ch, longer⟩ := walk.cons_of_forward? step
  refine ⟨⟨ch :: w, longer⟩, fun v e u there back some => ?_⟩
  cases v with
  | nil => rwa [← there.eq_of_nil]
  | cons ch' v =>
      obtain ⟨next', step', onward⟩ := there.uncons
      rw [Option.some.inj (step.symm.trans step')] at between
      exact between v e u onward back some

end Cursor.Passes

theorem Regex.search?_of_match {r : Regex} {c : Cursor} {m : Match}
    (found : r.matchAt? c = some m) : r.search? c = some m := by
  rw [search?_eq, found]
  rfl

theorem Regex.search?_of_step {r : Regex} {c next : Cursor} (step : c.forward? = some next)
    (found : r.matchAt? c = none) : r.search? c = r.search? next := by
  rw [search?_eq, found, step]
  rfl

theorem Regex.search?_spec (r : Regex) (c : Cursor) :
    match r.search? c with
    | none => ∀ w d, c.Walks w d → r.matchAt? d = none
    | some m => ∃ d, c.Passes (r.matchAt? · = none) d ∧ r.matchAt? d = some m := by
  -- By induction on the text that is left, one step of the search at a time.
  induction size : c.rest.length generalizing c with
  | zero =>
      have ended := List.eq_nil_of_length_eq_zero size
      cases found : r.matchAt? c with
      | some m =>
          rw [search?_of_match found]
          exact ⟨c, .refl c, found⟩
      | none =>
          rw [search?_eq, found, (Cursor.forward?_eq_none_iff c).mpr ended]
          intro w d walk
          have none : w = [] := by
            have := walk.length
            exact List.eq_nil_of_length_eq_zero (by omega)
          subst none
          rwa [← walk.eq_of_nil]
  | succ n ih =>
      obtain ⟨ch, later, rest⟩ := List.exists_cons_of_length_eq_add_one size
      obtain ⟨end', walk, _⟩ := Cursor.exists_walk c [ch] later rest
      obtain ⟨next, step, _⟩ := walk.uncons
      have shorter := Cursor.rest_of_forward? step
      have onward := ih next (by omega)
      cases found : r.matchAt? c with
      | some m =>
          rw [search?_of_match found]
          exact ⟨c, .refl c, found⟩
      | none =>
          rw [search?_of_step step found]
          cases later : r.search? next with
          | some m =>
              simp only [later] at onward
              obtain ⟨d, passes, here⟩ := onward
              exact ⟨d, .cons step found passes, here⟩
          | none =>
              simp only [later] at onward
              intro w d walk
              cases w with
              | nil => rwa [← walk.eq_of_nil]
              | cons ch' w =>
                  obtain ⟨next', step', rest⟩ := walk.uncons
                  rw [Option.some.inj (step.symm.trans step')] at onward
                  exact onward w d rest

theorem Cursor.seekWithin_passes (place : Nat) (fuel : Text) (c : Cursor) :
    c.Passes (·.offset < place) (seekWithin place fuel c) := by
  induction fuel generalizing c with
  | nil => exact .refl c
  | cons _ later ih =>
      rw [seekWithin]
      split
      · exact .refl c
      · rename_i early
        cases step : c.forward? with
        | none => exact .refl c
        | some next => exact .cons step (Nat.lt_of_not_le early) (ih next)

theorem Cursor.seek_passes (c : Cursor) (place : Nat) :
    c.Passes (·.offset < place) (c.seek place) := seekWithin_passes place c.rest c

theorem Cursor.seek_moves (c : Cursor) (place : Nat) (early : c.offset < place)
    (some : c.rest ≠ []) : (c.seek place).rest.length < c.rest.length := by
  obtain ⟨ch, later, rest⟩ := List.exists_cons_of_ne_nil some
  obtain ⟨end', walk, _⟩ := exists_walk c [ch] later rest
  obtain ⟨next, step, _⟩ := walk.uncons
  have shorter := rest_of_forward? step
  obtain ⟨w, onward⟩ := (seekWithin_passes place later next).1
  have := onward.length
  rw [seek, rest, seekWithin, if_neg (Nat.not_le.mpr early), step]
  simp only
  rw [rest] at shorter
  omega

namespace ClaimIndex

variable {index : ClaimIndex}

theorem Valid.code_of_codeEnd? (valid : index.Valid) {place stop : Nat}
    (found : index.codeEnd? place = some stop) : ∃ c ∈ index.all, c.token.type.isOpaque = true ∧
      c.token.span.start ≤ place ∧ place < stop ∧ c.token.span.stop = stop := by
  obtain ⟨c, inside, rfl⟩ := List.mem_map.mp (List.max?_mem found)
  obtain ⟨covering, code⟩ := List.mem_filter.mp inside
  obtain ⟨present, low, high⟩ := (valid.mem_covering_iff place c).mp covering
  exact ⟨c, present, code, low, high, rfl⟩

structure Mirrors (index : ClaimIndex) (accepted : List Token) : Prop where
  valid : index.Valid
  same : index.tokens.Perm accepted

theorem Mirrors.fits_iff {accepted : List Token} (mirrors : index.Mirrors accepted) (t : Token) :
    index.fits t = Plain.admits accepted t := by
  rw [Bool.eq_iff_iff, mirrors.valid.fits_iff, Plain.admits, List.all_eq_true]
  simp only [← mirrors.same.mem_iff, tokens_eq, List.mem_map]
  constructor
  · rintro nests u ⟨c, present, rfl⟩
    exact nests c present
  · intro nests c present
    exact nests c.token ⟨c, present, rfl⟩

theorem Mirrors.insert {accepted : List Token} (mirrors : index.Mirrors accepted) {t : Token}
    (solid : t.Solid) (admitted : Plain.admits accepted t = true) :
    (index.insert t).Mirrors (accepted ++ [t]) := by
  rw [← mirrors.fits_iff] at admitted
  obtain ⟨valid, before, after, old, new⟩ :=
    mirrors.valid.insert solid ((mirrors.valid.fits_iff t).mp admitted)
  refine ⟨valid, ?_⟩
  rw [new]
  refine List.perm_middle.trans (List.Perm.trans ?_ (List.perm_append_singleton t accepted).symm)
  rw [← old]
  exact mirrors.same.cons t

end ClaimIndex

section Scan

variable {p : Pattern} {index : ClaimIndex} {accepted : List Token} {c : Cursor}

/-- Inside code nothing is accepted: a match that starts there and is not the
one that was rejected at the start of the code can only cross or sit in it. -/
theorem refused_inside_code (lawful : p.Lawful) {code : Token} (present : code ∈ accepted)
    (hidden : code.type.isOpaque = true)
    (after : code.span.start < c.offset) (before : c.offset < code.span.stop) :
    Plain.claimAt? p accepted c = none := by
  cases claimed : Plain.claimAt? p accepted c with
  | none => rfl
  | some claim =>
      exfalso
      obtain ⟨t, d⟩ := claim
      obtain ⟨m, _, reads, admitted, _⟩ := (Plain.claimAt?_eq_some_iff lawful t d).mp claimed
      have start : t.span.start = c.offset := by
        simp [Token.span, Excerpt.span, reads.source]
      have nonempty := reads.wellCut.solid.nonempty
      -- A token that starts inside the code cannot lie apart from it or around it, and the
      -- code holds nothing.
      rcases (Token.nestsWith_iff t code).mp (List.all_eq_true.mp admitted code present) with
        apart | ⟨_, outside | inside⟩
      · rw [Span.disjoint_iff] at apart
        omega
      · have around := reads.wellCut.solid.contains_of_holds outside
        rw [Span.contains_iff] at around
        omega
      · simp [Token.holds, hidden] at inside

theorem claimAt?_of_refused (found : p.regex.matchAt? c = none) :
    Plain.claimAt? p accepted c = none := by
  rw [Plain.claimAt?, found]

/-- After a rejected match both scans go on alike: what the code around it makes
the one pass over is refused step by step by the other. -/
theorem scanFrom_resumeAfter (lawful : p.Lawful) (mirrors : index.Mirrors accepted)
    (refused : Plain.claimAt? p accepted c = none) (some : c.rest ≠ []) :
    ∃ next, Round.resumeAfter index c = .some next ∧ next.rest.length < c.rest.length ∧
      Plain.scanFrom p accepted c = Plain.scanFrom p accepted next := by
  rw [Round.resumeAfter]
  cases found : index.codeEnd? c.offset with
  | none =>
      cases step : c.forward? with
      | none => exact absurd ((Cursor.forward?_eq_none_iff c).mp step) some
      | some next =>
          have := Cursor.rest_of_forward? step
          exact ⟨next, rfl, by omega, Plain.scanFrom_of_step lawful step refused⟩
  | some stop =>
      obtain ⟨code, present, hidden, low, high, rfl⟩ := mirrors.valid.code_of_codeEnd? found
      obtain ⟨⟨w, walk⟩, passes⟩ := c.seek_passes code.token.span.stop
      refine ⟨_, rfl, c.seek_moves _ high some, ?_⟩
      -- The first place is the one just refused, all others lie inside the code.
      apply Plain.scanFrom_of_walk lawful walk
      intro v e u there back more
      cases v with
      | nil => rwa [← there.eq_of_nil]
      | cons ch v =>
          have later := there.offset_lt_iff.mpr (List.cons_ne_nil ch v)
          have listed : code.token ∈ accepted := by
            rw [← mirrors.same.mem_iff, ClaimIndex.tokens_eq]
            exact List.mem_map_of_mem present
          exact refused_inside_code lawful listed hidden (by omega) (passes _ e u there back more)

theorem search?_of_lawful (lawful : p.Lawful) (c : Cursor) : p.search? c = p.regex.search? c := by
  rw [Pattern.search?, lawful.backtracking]

/-- What a round does: there is no match left, or the first one is read, and its token is
accepted or refused. -/
theorem round_cases (lawful : p.Lawful) (index : ClaimIndex) (c : Cursor) :
    (p.round index c = .ok ⟨index, none⟩ ∧ ∀ w d, c.Walks w d → p.regex.matchAt? d = none) ∨
      ∃ d m t, c.Passes (p.regex.matchAt? · = none) d ∧ p.regex.matchAt? d = some m ∧
        p.Reads d m t ∧ p.round index c = .ok (if index.fits t
          then ⟨index.insert t, some m.stop⟩ else ⟨index, Round.resumeAfter index d⟩) := by
  have searched := p.regex.search?_spec c
  rw [Pattern.round, search?_of_lawful lawful]
  cases found : p.regex.search? c with
  | none =>
      rw [found] at searched
      exact Or.inl ⟨rfl, searched⟩
  | some m =>
      rw [found] at searched
      obtain ⟨d, passes, here⟩ := searched
      obtain ⟨t, reads⟩ := lawful.reads d m here
      have full : m.isEmpty = false := by
        have moved := reads.moved
        simp only [Match.isEmpty, reads.start, beq_eq_false_iff_ne]
        omega
      refine Or.inr ⟨d, m, t, passes, here, reads, ?_⟩
      by_cases fit : index.fits t = true
      · simp [Round.ofMatch, full, reads.extracted, fit, bind, Except.bind, pure, Except.pure]
      · simp [Round.ofMatch, full, reads.extracted, fit, reads.start, bind, Except.bind, pure,
          Except.pure]

theorem round_mirrors (lawful : p.Lawful) (mirrors : index.Mirrors accepted) (c : Cursor) :
    ∃ round, p.round index c = .ok round ∧
      match round.resume? with
      | none => round.index.Mirrors (Plain.scanFrom p accepted c)
      | some next => next.rest.length < c.rest.length ∧ ∃ accepted',
          round.index.Mirrors accepted' ∧
          Plain.scanFrom p accepted c = Plain.scanFrom p accepted' next := by
  rcases round_cases lawful index c with ⟨ran, searched⟩ | ⟨d, m, t, passes, here, reads, ran⟩
  · obtain ⟨d, walk, ended⟩ := c.exists_walk c.rest [] (by simp)
    refine ⟨⟨index, none⟩, ran, ?_⟩
    rw [Plain.scanFrom_of_walk lawful walk fun v e _ there _ _ =>
      claimAt?_of_refused (searched v e there), Plain.scanFrom_at_end ended]
    exact mirrors
  · obtain ⟨⟨w, walk⟩, passes⟩ := passes
    have skipped : Plain.scanFrom p accepted c = Plain.scanFrom p accepted d :=
      Plain.scanFrom_of_walk lawful walk fun v e u there back more =>
        claimAt?_of_refused (passes v e u there back more)
    obtain ⟨v, onward⟩ := reads.walk
    have longer := onward.length_lt (onward.offset_lt_iff.mp reads.moved)
    have before := walk.length
    cases admitted : Plain.admits accepted t with
    | true =>
        have claimed : Plain.claimAt? p accepted d = .some (t, m.stop) :=
          (Plain.claimAt?_eq_some_iff lawful t m.stop).mpr ⟨m, here, reads, admitted, rfl⟩
        rw [mirrors.fits_iff, if_pos admitted] at ran
        refine ⟨_, ran, by omega, accepted ++ [t],
          mirrors.insert reads.wellCut.solid admitted, ?_⟩
        rw [skipped, Plain.scanFrom_of_claim lawful claimed]
    | false =>
        have refused : Plain.claimAt? p accepted d = none := by
          simp [Plain.claimAt?, here, reads.extracted, admitted]
        have some : d.rest ≠ [] := by
          intro ended
          simp [ended] at longer
        obtain ⟨next, resumed, shorter, same⟩ := scanFrom_resumeAfter lawful mirrors refused some
        rw [mirrors.fits_iff, admitted, if_neg (by simp), resumed] at ran
        exact ⟨_, ran, by omega, accepted, mirrors, skipped.trans same⟩

theorem scanWithin_mirrors (lawful : p.Lawful) (fuel : Text) (mirrors : index.Mirrors accepted)
    (enough : c.rest.length ≤ fuel.length) :
    ∃ index', p.scanWithin fuel index c = .ok index' ∧
      index'.Mirrors (Plain.scanFrom p accepted c) := by
  induction fuel generalizing index accepted c with
  | nil =>
      obtain ⟨round, ran, onward⟩ := round_mirrors lawful mirrors c
      refine ⟨round.index, by rw [Pattern.scanWithin, ran]; rfl, ?_⟩
      cases next : round.resume? with
      | none => simpa only [next] using onward
      | some next' =>
          simp only [next] at onward
          have := onward.1
          rw [List.length_nil] at enough
          omega
  | cons ch later ih =>
      obtain ⟨round, ran, onward⟩ := round_mirrors lawful mirrors c
      rw [Pattern.scanWithin, ran]
      cases next : round.resume? with
      | none =>
          refine ⟨round.index, ?_, by simpa only [next] using onward⟩
          simp [next, bind, Except.bind, pure, Except.pure]
      | some next' =>
          simp only [next] at onward
          obtain ⟨shorter, accepted', mirrors', same⟩ := onward
          rw [List.length_cons] at enough
          obtain ⟨index', scanned, final⟩ := ih mirrors' (c := next') (by omega)
          refine ⟨index', ?_, same ▸ final⟩
          simpa [next, bind, Except.bind] using scanned

end Scan

/-- Claiming text with the index never fails, and accepts what the plain way does. -/
theorem claimAll_mirrors (patterns : List Pattern) (lawful : ∀ p ∈ patterns, p.Lawful)
    (text : Text) : ∃ index, claimAll patterns text = .ok index ∧
      index.Mirrors (Plain.accept patterns text) := by
  have start : ClaimIndex.empty.Mirrors [] := ⟨ClaimIndex.empty_valid, .refl _⟩
  rw [claimAll, Plain.accept]
  -- Both ways start from nothing; the induction is on the patterns still to come.
  revert start
  generalize ClaimIndex.empty = index
  generalize ([] : List Token) = accepted
  induction patterns generalizing index accepted with
  | nil =>
      intro mirrors
      exact ⟨index, rfl, mirrors⟩
  | cons p later ih =>
      intro mirrors
      obtain ⟨index', scanned, mirrors'⟩ := scanWithin_mirrors (c := .atStart text)
        (lawful p List.mem_cons_self) text mirrors (Nat.le_refl _)
      obtain ⟨final, claimed, mirrors''⟩ :=
        ih (fun q inside => lawful q (List.mem_cons_of_mem p inside)) index' _ mirrors'
      refine ⟨final, ?_, mirrors''⟩
      rw [List.foldlM_cons, Pattern.scan, scanned]
      exact claimed

end MarkdownHighlight
