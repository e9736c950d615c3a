import MarkdownHighlight.Proofs.Claim.Plain
import MarkdownHighlight.Proofs.Grammar.Shift
import MarkdownHighlight.Proofs.Regex.Window

/-!
Claiming in a part of a text against claiming in the whole. As long as no match
at a place that the scan comes to runs beyond the part, the whole is claimed as
the part alone would be: tokens elsewhere never keep a token of the part out.
-/

namespace MarkdownHighlight

section Captures

variable {lead tail : Text}

theorem Cursor.excerptTo_within (c d : Cursor) (same : d.text = c.text) :
    (c.within lead tail).excerptTo (d.within lead tail) = (c.excerptTo d).shift lead.size := by
  have inside : d.offset - c.offset ≤ Text.size c.rest := by
    have sizes := congrArg Text.size same
    simp only [Cursor.text, Text.size_append, Cursor.size_reverse, ← Cursor.offset_eq] at sizes
    omega
  have distance : (d.within lead tail).offset - (c.within lead tail).offset =
      d.offset - c.offset := Nat.add_sub_add_left ..
  rw [Cursor.excerptTo, Cursor.excerptTo, distance]
  change (⟨_, Text.takeBytes _ (c.rest ++ tail)⟩ : Excerpt) = _
  rw [Text.takeBytes_append_of_le _ _ _ inside]
  rfl

theorem Match.captures_within {r : Regex} {c : Cursor} {m : Match} (found : r.matchAt? c = some m) :
    (m.within lead tail).captures = m.captures.shift lead.size := by
  obtain ⟨d, groups, first, rfl⟩ := Regex.matchAt?_eq_some found
  have member := List.mem_of_mem_head? first
  obtain ⟨w, walk, _⟩ := Regex.outcomes_walk r _ _ member
  have known := Regex.groups_text r _ _ member nofun
  simp only [Match.captures, Match.within, Captures.shift, List.map_cons, List.map_map,
    Captures.mk.injEq, List.cons.injEq, Prod.mk.injEq, true_and]
  refine ⟨c.excerptTo_within d walk.text, List.map_congr_left fun g inside => ?_⟩
  obtain ⟨opened, closed⟩ := known g inside
  exact congrArg (Prod.mk g.1) (Cursor.excerptTo_within _ _ (closed.trans opened.symm))

end Captures

structure Pattern.LineLocal (p : Pattern) : Prop where
  lawful : p.Lawful
  shifts : p.extraction.Shifts
  assertions : ∀ a ∈ p.regex.assertions, a.isLineLocal = true

namespace Plain

section Reached

variable {p : Pattern} {initial accepted : List Token} {start c : Cursor}

/-- What lies behind a place does not keep out a token that starts there. -/
theorem admits_of_behind {m : Match} {t : Token} (reads : p.Reads c m t)
    (behind : ∀ u ∈ accepted, u.span.stop ≤ c.offset) : admits accepted t = true := by
  apply List.all_eq_true.mpr
  intro u inside
  apply Token.nestsWith_of_disjoint
  rw [Span.disjoint_iff, reads.span_eq]
  exact Or.inr (behind u inside)

/-- A scan that starts with nothing has accepted only what lies behind it. -/
theorem Reached.behind (lawful : p.Lawful) (reached : Reached p [] start accepted c) :
    ∀ u ∈ accepted, u.span.stop ≤ c.offset :=
  fun u inside => ((reached.cases_of_mem lawful u inside).resolve_left List.not_mem_nil).2

theorem Reached.accepts (lawful : p.Lawful) (reached : Reached p [] start accepted c) {m : Match}
    {t : Token} (found : p.regex.matchAt? c = some m) (reads : p.Reads c m t) :
    t ∈ scanFrom p [] start := by
  have admitted := admits_of_behind reads (reached.behind lawful)
  have claimed := (claimAt?_eq_some_iff lawful t m.stop).mpr ⟨m, found, reads, admitted, rfl⟩
  rw [(reached.claim claimed).scanFrom_eq lawful]
  exact subset_scanFrom _ _ _ (List.mem_append_right _ (List.mem_singleton_self t))

end Reached

/-- The tokens accepted in a whole text are those of a part of it, moved to
their places, and others that lie elsewhere. -/
structure Comprises (lead part : Text) (accepted inPart others : List Token) : Prop where
  same : accepted.Perm (inPart.map (Token.shift lead.size) ++ others)
  inside : ∀ t ∈ inPart, t.span.stop ≤ part.size
  elsewhere : ∀ u ∈ others, u.span.stop ≤ lead.size ∨ lead.size + part.size ≤ u.span.start

section Part

variable {p : Pattern} {lead part tail : Text} {accepted inPart others : List Token}

theorem Comprises.admits_shift (comprises : Comprises lead part accepted inPart others) (t : Token)
    (inside : t.span.stop ≤ part.size) :
    admits accepted (t.shift lead.size) = admits inPart t := by
  have apart : others.all ((t.shift lead.size).nestsWith ·) = true := by
    apply List.all_eq_true.mpr
    intro u present
    apply Token.nestsWith_of_disjoint
    have := comprises.elsewhere u present
    rw [Span.disjoint_iff, Token.shift_span, Span.shift_start, Span.shift_stop]
    omega
  rw [admits, comprises.same.all_eq, List.all_append, apart, Bool.and_true, List.all_map, admits]
  congr 1
  funext u
  exact Token.nestsWith_shift lead.size t u

theorem Comprises.add {t : Token} (comprises : Comprises lead part accepted inPart others)
    (within : t.span.stop ≤ part.size) :
    Comprises lead part (accepted ++ [t.shift lead.size]) (inPart ++ [t]) others where
  same := by
    rw [List.map_append, List.append_assoc]
    refine (comprises.same.append_right _).trans ?_
    rw [List.append_assoc]
    exact List.perm_append_comm.append_left _
  inside := by
    intro u present
    rcases List.mem_append.mp present with old | new
    · exact comprises.inside u old
    · rwa [List.mem_singleton.mp new]
  elsewhere := comprises.elsewhere

theorem claimAt?_within (framed : Framed lead tail) (lineLocal : p.LineLocal) {c : Cursor}
    (comprises : Comprises lead c.text accepted inPart others)
    (stay : ∀ m, p.regex.matchAt? (c.within lead tail) = some m →
      tail.length ≤ m.stop.rest.length) :
    claimAt? p accepted (c.within lead tail) =
      (claimAt? p inPart c).map fun (t, d) => (t.shift lead.size, d.within lead tail) := by
  rw [claimAt?, claimAt?, Regex.matchAt?_within framed _ lineLocal.assertions c stay]
  cases found : p.regex.matchAt? c with
  | none => rfl
  | some m =>
      obtain ⟨t, reads⟩ := lineLocal.lawful.reads c m found
      have extracted := Pattern.extract_shift lineLocal.shifts lead.size _ t reads.extracted
      simp only [Option.map_some, Match.captures_within found, extracted, reads.extracted,
        comprises.admits_shift t reads.wellCut.stop_le]
      split <;> rfl

/-- The scan through the part: in the whole it comes to the end of the part, and
accepts what the part alone would have accepted. -/
theorem Reached.through (framed : Framed lead tail) (lineLocal : p.LineLocal)
    {initial : List Token} {start : Cursor}
    (stay : ∀ accepted (d : Cursor), d.text = part →
      Reached p initial start accepted (d.within lead tail) →
      ∀ m, p.regex.matchAt? (d.within lead tail) = some m → tail.length ≤ m.stop.rest.length)
    {c : Cursor} (text : c.text = part)
    (reached : Reached p initial start accepted (c.within lead tail))
    (comprises : Comprises lead part accepted inPart others) :
    ∃ (accepted' : List Token) (e : Cursor),
      Reached p initial start accepted' (e.within lead tail) ∧ e.text = part ∧ e.rest = [] ∧
      Comprises lead part accepted' (scanFrom p inPart c) others := by
  -- By induction on what is left of the part; in the whole the same steps are taken.
  generalize bound : c.rest.length = n
  induction n using Nat.strongRecOn generalizing accepted inPart c with
  | ind n ih =>
      have same := claimAt?_within framed lineLocal (text ▸ comprises)
        (stay accepted c text reached)
      cases claimed : claimAt? p inPart c with
      | some claim =>
          obtain ⟨t, d⟩ := claim
          rw [claimed] at same
          obtain ⟨m, _, reads, _, rfl⟩ := (claimAt?_eq_some_iff lineLocal.lawful t d).mp claimed
          obtain ⟨w, walk⟩ := reads.walk
          have within := text ▸ reads.wellCut.stop_le
          rw [scanFrom_of_claim lineLocal.lawful claimed]
          exact ih _ (bound ▸ rest_lt_of_claimAt? lineLocal.lawful claimed) (walk.text.trans text)
            (reached.claim same) (comprises.add within) rfl
      | none =>
          rw [claimed] at same
          cases forward : c.forward? with
          | none =>
              have ended := (Cursor.forward?_eq_none_iff c).mp forward
              refine ⟨accepted, c, reached, text, ended, ?_⟩
              rwa [scanFrom_at_end ended]
          | some next =>
              obtain ⟨ch, walk⟩ := (Cursor.forward?_eq_some_iff c next).mp forward
              have step : (c.within lead tail).Walks [ch] (next.within lead tail) := walk.within
              have onward := (Cursor.forward?_eq_some_iff _ _).mpr ⟨ch, step⟩
              have shorter := Cursor.rest_of_forward? forward
              rw [scanFrom_of_step lineLocal.lawful forward claimed]
              exact ih _ (by omega) (walk.text.trans text) (reached.step same onward) comprises rfl

end Part

end Plain

end MarkdownHighlight
