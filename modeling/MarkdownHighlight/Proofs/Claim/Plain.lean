import MarkdownHighlight.Proofs.Claim.Nesting
import MarkdownHighlight.Proofs.Grammar.Lawful

/-!
The plain way to claim text. The accepted tokens are a list; a pattern is tried
at every character in turn, and what it matches is accepted when it nests with
every token of the list. Nothing is looked up and nothing is passed over but
what was accepted.
-/

namespace MarkdownHighlight

namespace Pattern.Reads

variable {p : Pattern} {c : Cursor} {m : Match} {t : Token}

theorem span_eq (reads : p.Reads c m t) : t.span = ⟨c.offset, m.stop.offset⟩ := by
  obtain ⟨w, walk⟩ := reads.walk
  rw [Token.span, reads.source, walk.excerptTo_span]

theorem type_eq (reads : p.Reads c m t) : t.type = p.type := by
  have extracted := reads.extracted
  rw [Pattern.extract] at extracted
  cases read : p.extraction m.captures with
  | error e =>
      rw [read] at extracted
      cases extracted
  | ok u =>
      rw [read] at extracted
      change (if u.type = p.type then Except.ok u else _) = Except.ok t at extracted
      split at extracted
      · rwa [← Except.ok.inj extracted]
      · cases extracted

end Pattern.Reads

namespace Plain

def admits (accepted : List Token) (t : Token) : Bool := accepted.all (t.nestsWith ·)

def claimAt? (p : Pattern) (accepted : List Token) (c : Cursor) : Option (Token × Cursor) :=
  match p.regex.matchAt? c with
  | none => none
  | some m =>
      match p.extract m.captures with
      | .error _ => none
      | .ok t => if admits accepted t then some (t, m.stop) else none

def scanWithin (p : Pattern) : Text → List Token → Cursor → List Token
  | [], accepted, _ => accepted
  | _ :: later, accepted, c =>
      match claimAt? p accepted c with
      | some (t, stop) => scanWithin p later (accepted ++ [t]) stop
      | none =>
          match c.forward? with
          | none => accepted
          | some next => scanWithin p later accepted next

def scanFrom (p : Pattern) (accepted : List Token) (c : Cursor) : List Token :=
  scanWithin p c.rest accepted c

def accept (patterns : List Pattern) (text : Text) : List Token :=
  patterns.foldl (fun accepted p => scanFrom p accepted (.atStart text)) []

section Scan

variable {p : Pattern} {c : Cursor} {accepted : List Token}

theorem claimAt?_eq_some_iff (lawful : p.Lawful) (t : Token) (d : Cursor) :
    claimAt? p accepted c = some (t, d) ↔
      ∃ m, p.regex.matchAt? c = some m ∧ p.Reads c m t ∧ admits accepted t = true ∧ d = m.stop := by
  rw [claimAt?]
  cases found : p.regex.matchAt? c with
  | none => simp
  | some m =>
      obtain ⟨u, reads⟩ := lawful.reads c m found
      simp only [reads.extracted, Option.some.injEq, exists_eq_left']
      constructor
      · intro claimed
        split at claimed
        · rename_i admitted
          obtain ⟨rfl, rfl⟩ := Prod.mk.inj (Option.some.inj claimed)
          exact ⟨reads, admitted, rfl⟩
        · cases claimed
      · rintro ⟨reads', admitted, rfl⟩
        have same : u = t := Except.ok.inj (reads.extracted.symm.trans reads'.extracted)
        rw [same, if_pos admitted]

theorem rest_lt_of_claimAt? (lawful : p.Lawful) {t : Token} {d : Cursor}
    (claimed : claimAt? p accepted c = some (t, d)) : d.rest.length < c.rest.length := by
  obtain ⟨m, _, reads, _, rfl⟩ := (claimAt?_eq_some_iff lawful t d).mp claimed
  obtain ⟨w, walk⟩ := reads.walk
  exact walk.length_lt (walk.offset_lt_iff.mp reads.moved)

theorem claimAt?_at_end (lawful : p.Lawful) (ended : c.rest = []) :
    claimAt? p accepted c = none := by
  cases claimed : claimAt? p accepted c with
  | none => rfl
  | some claim =>
      have := rest_lt_of_claimAt? lawful claimed
      simp [ended] at this

theorem scanWithin_at_end (lawful : p.Lawful) (fuel : Text) (ended : c.rest = []) :
    scanWithin p fuel accepted c = accepted := by
  cases fuel with
  | nil => rfl
  | cons _ later =>
      rw [scanWithin, claimAt?_at_end lawful ended, (Cursor.forward?_eq_none_iff c).mpr ended]

/-- The rest of the text bounds the steps; a longer bound changes nothing. -/
theorem scanWithin_bound (lawful : p.Lawful) (fuel fuel' : Text)
    (enough : c.rest.length ≤ fuel.length) (enough' : c.rest.length ≤ fuel'.length) :
    scanWithin p fuel accepted c = scanWithin p fuel' accepted c := by
  induction fuel generalizing fuel' accepted c with
  | nil =>
      have ended := List.eq_nil_of_length_eq_zero (Nat.le_zero.mp enough)
      rw [scanWithin_at_end lawful fuel' ended]
      rfl
  | cons _ later ih =>
      cases fuel' with
      | nil =>
          have ended := List.eq_nil_of_length_eq_zero (Nat.le_zero.mp enough')
          rw [scanWithin_at_end lawful _ ended]
          rfl
      | cons _ later' =>
          rw [List.length_cons] at enough enough'
          rw [scanWithin, scanWithin]
          -- Accepting a token and stepping on both shorten the rest, and the bound with it.
          cases claimed : claimAt? p accepted c with
          | some claim =>
              have := rest_lt_of_claimAt? lawful claimed
              exact ih later' (by omega) (by omega)
          | none =>
              cases step : c.forward? with
              | none => rfl
              | some next =>
                  have := Cursor.rest_of_forward? step
                  exact ih later' (by omega) (by omega)

theorem scanFrom_of_claim (lawful : p.Lawful) {t : Token} {d : Cursor}
    (claimed : claimAt? p accepted c = some (t, d)) :
    scanFrom p accepted c = scanFrom p (accepted ++ [t]) d := by
  have shorter := rest_lt_of_claimAt? lawful claimed
  rw [scanFrom]
  cases rest : c.rest with
  | nil => simp [rest] at shorter
  | cons ch later =>
      rw [rest, List.length_cons] at shorter
      rw [scanWithin, claimed]
      exact scanWithin_bound lawful later d.rest (by omega) (Nat.le_refl _)

theorem scanFrom_of_step (lawful : p.Lawful) {next : Cursor} (step : c.forward? = some next)
    (refused : claimAt? p accepted c = none) :
    scanFrom p accepted c = scanFrom p accepted next := by
  have longer := Cursor.rest_of_forward? step
  rw [scanFrom]
  cases rest : c.rest with
  | nil => simp [rest] at longer
  | cons ch later =>
      rw [rest, List.length_cons] at longer
      rw [scanWithin, refused, step]
      exact scanWithin_bound lawful later next.rest (by omega) (Nat.le_refl _)

theorem scanFrom_at_end (ended : c.rest = []) : scanFrom p accepted c = accepted := by
  rw [scanFrom, ended]
  rfl

/-- Places where nothing can be accepted may be passed over. -/
theorem scanFrom_of_walk (lawful : p.Lawful) {w : Text} {d : Cursor} (walk : c.Walks w d)
    (refused : ∀ v e u, c.Walks v e → e.Walks u d → u ≠ [] → claimAt? p accepted e = none) :
    scanFrom p accepted c = scanFrom p accepted d := by
  induction w generalizing c with
  | nil => rw [walk.eq_of_nil]
  | cons ch w ih =>
      obtain ⟨next, step, onward⟩ := Cursor.Walks.of_append (v := [ch]) (w := w) walk
      have here := refused [] c (ch :: w) (.refl c) walk (List.cons_ne_nil ch w)
      rw [scanFrom_of_step lawful ((Cursor.forward?_eq_some_iff c next).mpr ⟨ch, step⟩) here]
      exact ih onward fun v e u reached rest some => refused (ch :: v) e u (step.trans reached)
        rest some

end Scan

/-- What a scan has accepted when it comes to a place. -/
inductive Reached (p : Pattern) (initial : List Token) (start : Cursor) :
    List Token → Cursor → Prop
  | start : Reached p initial start initial start
  | claim {accepted : List Token} {c d : Cursor} {t : Token} :
      Reached p initial start accepted c → claimAt? p accepted c = some (t, d) →
      Reached p initial start (accepted ++ [t]) d
  | step {accepted : List Token} {c next : Cursor} :
      Reached p initial start accepted c → claimAt? p accepted c = none →
      c.forward? = some next → Reached p initial start accepted next

section Reached

variable {p : Pattern} {initial accepted : List Token} {start c : Cursor}

theorem reached_scanFrom (p : Pattern) (initial : List Token) (start : Cursor) :
    ∃ d, Reached p initial start (scanFrom p initial start) d := by
  have onward : ∀ fuel accepted c, Reached p initial start accepted c →
      ∃ d, Reached p initial start (scanWithin p fuel accepted c) d := by
    intro fuel
    induction fuel with
    | nil => exact fun accepted c reached => ⟨c, reached⟩
    | cons _ later ih =>
        intro accepted c reached
        rw [scanWithin]
        cases claimed : claimAt? p accepted c with
        | some claim => exact ih _ _ (reached.claim claimed)
        | none =>
            cases forward : c.forward? with
            | none => exact ⟨c, reached⟩
            | some next => exact ih _ _ (reached.step claimed forward)
  exact onward start.rest initial start .start

theorem Reached.scanFrom_eq (lawful : p.Lawful) (reached : Reached p initial start accepted c) :
    scanFrom p initial start = scanFrom p accepted c := by
  induction reached with
  | start => rfl
  | claim _ claimed ih => rw [ih, scanFrom_of_claim lawful claimed]
  | step _ refused forward ih => rw [ih, scanFrom_of_step lawful forward refused]

theorem Reached.text (lawful : p.Lawful) (reached : Reached p initial start accepted c) :
    c.text = start.text := by
  induction reached with
  | start => rfl
  | claim _ claimed ih =>
      obtain ⟨m, _, reads, _, rfl⟩ := (claimAt?_eq_some_iff lawful _ _).mp claimed
      obtain ⟨w, walk⟩ := reads.walk
      exact walk.text.trans ih
  | step _ _ forward ih =>
      obtain ⟨_, walk⟩ := (Cursor.forward?_eq_some_iff ..).mp forward
      exact walk.text.trans ih

theorem Reached.subset (reached : Reached p initial start accepted c) : initial ⊆ accepted := by
  induction reached with
  | start => exact List.Subset.refl _
  | claim _ _ ih => exact List.Subset.trans ih (List.subset_append_left _ _)
  | step _ _ _ ih => exact ih

theorem subset_scanFrom (p : Pattern) (initial : List Token) (start : Cursor) :
    initial ⊆ scanFrom p initial start := by
  obtain ⟨d, reached⟩ := reached_scanFrom p initial start
  exact reached.subset

theorem Reached.cases_of_mem (lawful : p.Lawful) (reached : Reached p initial start accepted c) :
    ∀ t ∈ accepted, t ∈ initial ∨ (t.type = p.type ∧ t.span.stop ≤ c.offset) := by
  induction reached with
  | start => exact fun t => Or.inl
  | claim _ claimed ih =>
      obtain ⟨m, _, reads, _, rfl⟩ := (claimAt?_eq_some_iff lawful _ _).mp claimed
      obtain ⟨w, walk⟩ := reads.walk
      intro t inside
      rcases List.mem_append.mp inside with old | new
      · exact (ih t old).imp_right (And.imp_right fun behind => behind.trans walk.offset_le)
      · rw [List.mem_singleton.mp new, reads.span_eq]
        exact Or.inr ⟨reads.type_eq, Nat.le_refl _⟩
  | step _ _ forward ih =>
      obtain ⟨_, walk⟩ := (Cursor.forward?_eq_some_iff ..).mp forward
      intro t inside
      exact (ih t inside).imp_right (And.imp_right fun behind => behind.trans walk.offset_le)

theorem mem_scanFrom_cases {t : Token} (lawful : p.Lawful) (member : t ∈ scanFrom p initial start) :
    t ∈ initial ∨ t.type = p.type := by
  obtain ⟨d, reached⟩ := reached_scanFrom p initial start
  exact (reached.cases_of_mem lawful t member).imp_right And.left

end Reached

def Sourced (patterns : List Pattern) (text : Text) (t : Token) : Prop :=
  ∃ p ∈ patterns, ∃ c m, c.text = text ∧ p.regex.matchAt? c = some m ∧ p.Reads c m t

structure Nested (patterns : List Pattern) (text : Text) (accepted : List Token) : Prop where
  sourced : ∀ t ∈ accepted, Sourced patterns text t
  nests : accepted.Pairwise fun a b => b.nestsWith a = true

theorem Nested.extend {patterns : List Pattern} {text : Text} {accepted : List Token} {t : Token}
    (nested : Nested patterns text accepted) (sourced : Sourced patterns text t)
    (admitted : admits accepted t = true) : Nested patterns text (accepted ++ [t]) where
  sourced := by
    intro u present
    rcases List.mem_append.mp present with old | new
    · exact nested.sourced u old
    · rwa [List.mem_singleton.mp new]
  nests := by
    apply List.pairwise_append.mpr
    refine ⟨nested.nests, List.pairwise_singleton _ _, ?_⟩
    intro a old b new
    rw [List.mem_singleton.mp new]
    exact List.all_eq_true.mp admitted a old

theorem Reached.nested {patterns : List Pattern} {p : Pattern} (member : p ∈ patterns)
    (lawful : p.Lawful) {initial accepted : List Token} {start c : Cursor}
    (reached : Reached p initial start accepted c) (nested : Nested patterns start.text initial) :
    Nested patterns start.text accepted := by
  induction reached with
  | start => exact nested
  | claim before claimed ih =>
      obtain ⟨m, found, reads, admitted, _⟩ := (claimAt?_eq_some_iff lawful _ _).mp claimed
      exact ih.extend ⟨p, member, _, m, before.text lawful, found, reads⟩ admitted
  | step _ _ _ ih => exact ih

theorem scanFrom_nested {patterns : List Pattern} {p : Pattern} (member : p ∈ patterns)
    (lawful : p.Lawful) {accepted : List Token} {c : Cursor}
    (nested : Nested patterns c.text accepted) : Nested patterns c.text (scanFrom p accepted c) := by
  obtain ⟨d, reached⟩ := reached_scanFrom p accepted c
  exact reached.nested member lawful nested

theorem foldl_nested {patterns later : List Pattern} {text : Text} {accepted : List Token}
    (members : ∀ p ∈ later, p ∈ patterns) (lawful : ∀ p ∈ later, p.Lawful)
    (nested : Nested patterns text accepted) :
    Nested patterns text
      (later.foldl (fun accepted p => scanFrom p accepted (.atStart text)) accepted) := by
  induction later generalizing accepted with
  | nil => exact nested
  | cons p others ih =>
      obtain ⟨member, membersLater⟩ := List.forall_mem_cons.mp members
      obtain ⟨reads, lawfulLater⟩ := List.forall_mem_cons.mp lawful
      apply ih membersLater lawfulLater
      exact scanFrom_nested (c := .atStart text) member reads nested

theorem accept_nested (patterns : List Pattern) (lawful : ∀ p ∈ patterns, p.Lawful) (text : Text) :
    Nested patterns text (accept patterns text) :=
  foldl_nested (fun _ inside => inside) lawful ⟨nofun, List.Pairwise.nil⟩

end Plain

end MarkdownHighlight
