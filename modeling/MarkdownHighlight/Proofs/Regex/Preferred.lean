import MarkdownHighlight.Proofs.Regex.Members

/-!
The outcome that is tried first. When each part of an expression gets what it
prefers and the parts behind it go on from there, no other outcome is looked at.
A greedy repetition prefers as many rounds as there can be, a lazy one gives way
only where what follows is refused.
-/

namespace MarkdownHighlight

def Cursor.Refuses (c : Cursor) (set : CharSet) : Prop :=
  ∀ ch, c.next? = some ch → set.test ch = false

namespace Regex

/-- Of all outcomes from `p` the first one. -/
def Prefers (r : Regex) (p q : Progress) : Prop := (outcomes r p).head? = some q

section Parts

variable {a b r : Regex} {p m q : Progress}

theorem Prefers.seq (first : Prefers a p m) (second : Prefers b m q) : Prefers (.seq a b) p q := by
  obtain ⟨later, split⟩ := List.head?_eq_some_iff.mp first
  rw [Prefers, outcomes, split, List.flatMap_cons, List.head?_append, second]
  rfl

theorem Prefers.group (index : Nat) (inner : Prefers r p q) :
    Prefers (.group index r) p (q.close index p.cursor) := by
  rw [Prefers, outcomes, List.head?_map, inner]
  rfl

theorem Prefers.left (first : Prefers a p q) : Prefers (.alt a b) p q := by
  rw [Prefers, outcomes, List.head?_append, first]
  rfl

theorem Prefers.right (refused : outcomes a p = []) (second : Prefers b p q) :
    Prefers (.alt a b) p q := by
  rw [Prefers, outcomes, refused, List.nil_append]
  exact second

theorem prefers_assert {condition : Assertion} (held : condition.holds p.cursor = true) :
    Prefers (.assert condition) p p := by
  rw [Prefers, outcomes, if_pos held]
  rfl

theorem outcomes_one {set : CharSet} {ch : Char} {d : Cursor} (allowed : set.test ch = true)
    (walk : p.cursor.Walks [ch] d) : outcomes (.one set) p = [⟨d, p.groups⟩] := by
  rw [outcomes, (consume?_eq_some_iff set p _).mpr ⟨ch, d, allowed, walk, rfl⟩]
  rfl

theorem prefers_one {set : CharSet} {ch : Char} {d : Cursor} (allowed : set.test ch = true)
    (walk : p.cursor.Walks [ch] d) : Prefers (.one set) p ⟨d, p.groups⟩ := by
  rw [Prefers, outcomes_one allowed walk]
  rfl

theorem prefers_char {ch : Char} {d : Cursor} (walk : p.cursor.Walks [ch] d) :
    Prefers (char ch) p ⟨d, p.groups⟩ :=
  prefers_one (by simp [CharSet.test]) walk

theorem outcomes_one_of_refuses {set : CharSet} (refuses : p.cursor.Refuses set) :
    outcomes (.one set) p = [] := by
  rw [List.eq_nil_iff_forall_not_mem]
  intro q member
  obtain ⟨ch, d, allowed, walk, rfl⟩ := (mem_outcomes_one set p q).mp member
  rw [refuses ch walk.next?] at allowed
  cases allowed

theorem outcomes_seq_of_nil (refused : outcomes a p = []) : outcomes (.seq a b) p = [] := by
  rw [outcomes, refused]
  rfl

theorem Prefers.of_only (member : q ∈ outcomes r p) (only : ∀ m ∈ outcomes r p, m = q) :
    Prefers r p q := by
  obtain ⟨first, others, split⟩ := List.exists_cons_of_ne_nil (List.ne_nil_of_mem member)
  rw [Prefers, split, List.head?_cons, only first (by simp [split])]

theorem prefers_literal (text : String) {d : Cursor} (walk : p.cursor.Walks text.toList d) :
    Prefers (literal text) p ⟨d, p.groups⟩ := by
  apply Prefers.of_only ((mem_outcomes_literal text p _).mpr ⟨d, walk, rfl⟩)
  intro m member
  obtain ⟨e, walk', rfl⟩ := (mem_outcomes_literal text p m).mp member
  rw [walk.target_unique walk']

theorem outcomes_seq_assoc (a b r : Regex) (p : Progress) :
    outcomes (.seq (.seq a b) r) p = outcomes (.seq a (.seq b r)) p := by
  simp only [outcomes, List.flatMap_assoc]

theorem Prefers.optional (first : Prefers r p q) : Prefers (optional true r) p q := first.left

theorem outcomes_optional_seq (a b : Regex) (p : Progress) :
    outcomes (.seq (optional true a) b) p = outcomes (.seq a b) p ++ outcomes b p := by
  change (outcomes a p ++ [p]).flatMap (outcomes b) = _
  rw [List.flatMap_append, List.flatMap_singleton]
  rfl

/-- An optional part is taken if what follows can go on from some end of it. -/
theorem Prefers.optional_seq (first : Prefers (.seq a b) p q) :
    Prefers (.seq (Regex.optional true a) b) p q := by
  rw [Prefers, outcomes_optional_seq, List.head?_append, first]
  rfl

theorem Prefers.optional_seq_of_nil (refused : outcomes (.seq a b) p = [])
    (second : Prefers b p q) : Prefers (.seq (Regex.optional true a) b) p q := by
  rw [Prefers, outcomes_optional_seq, refused, List.nil_append]
  exact second

theorem prefers_optional_of_nil (refused : outcomes r p = []) : Prefers (optional true r) p p :=
  .right refused rfl

end Parts

section Rounds

variable {r : Regex} {p m q : Progress}

/-- Each round takes what the body prefers, until the body has no outcome. -/
inductive Rounds (r : Regex) : Progress → Progress → Prop
  | stop {p : Progress} (refused : outcomes r p = []) : Rounds r p p
  | step {p m q : Progress} (first : Prefers r p m) (moved : p.cursor.offset < m.cursor.offset)
      (rest : Rounds r m q) : Rounds r p q

theorem Rounds.head? (rounds : Rounds r p q) (later : Text)
    (enough : p.cursor.rest.length ≤ later.length) :
    (roundOutcomes (outcomes r) true later p).head? = some q := by
  induction rounds generalizing later with
  | stop refused =>
      cases later with
      | nil => rfl
      | cons _ later => simp [roundOutcomes, refused]
  | @step p m q first moved _ ih =>
      obtain ⟨others, split⟩ := List.head?_eq_some_iff.mp first
      obtain ⟨w, walk, _⟩ := outcomes_walk r p m (by simp [split])
      have shorter := walk.length_lt (walk.offset_lt_iff.mp moved)
      cases later with
      | nil => exact absurd enough (by simp only [List.length_nil]; omega)
      | cons _ later =>
          rw [List.length_cons] at enough
          have rest := ih later (by omega)
          rw [roundOutcomes, if_pos rfl, split, List.flatMap_cons, if_pos moved,
            List.head?_append, List.head?_append, rest]
          rfl

theorem Rounds.star (rounds : Rounds r p q) : Prefers (.star true r) p q :=
  rounds.head? _ (Nat.le_refl _)

theorem Rounds.plus (rounds : Rounds r p q) (moved : p.cursor.offset < q.cursor.offset) :
    Prefers (.plus true r) p q := by
  cases rounds with
  | stop => exact absurd moved (Nat.lt_irrefl _)
  | @step _ m _ first onward rest =>
      obtain ⟨others, split⟩ := List.head?_eq_some_iff.mp first
      have rounds := rest.head? m.cursor.rest (Nat.le_refl _)
      rw [Prefers, outcomes, split, List.flatMap_cons, if_pos onward, List.head?_append, rounds]
      rfl

end Rounds

section Runs

variable {set : CharSet} {p : Progress} {d : Cursor} {w : Text}

theorem rounds_one (walk : p.cursor.Walks w d) (all : AllIn set w) (ended : d.Refuses set) :
    Rounds (.one set) p ⟨d, p.groups⟩ := by
  induction w generalizing p with
  | nil =>
      have here := walk.eq_of_nil
      subst here
      exact .stop (outcomes_one_of_refuses ended)
  | cons ch w ih =>
      obtain ⟨e, first, onward⟩ := Cursor.Walks.of_append (v := [ch]) (w := w) walk
      obtain ⟨allowed, others⟩ := List.forall_mem_cons.mp all
      have moved := first.offset_lt_iff.mpr (List.cons_ne_nil ch [])
      exact .step (prefers_one allowed first) moved (ih (p := ⟨e, p.groups⟩) onward others)

theorem prefers_star_one (walk : p.cursor.Walks w d) (all : AllIn set w) (ended : d.Refuses set) :
    Prefers (.star true (.one set)) p ⟨d, p.groups⟩ :=
  (rounds_one walk all ended).star

theorem prefers_plus_one (some : w ≠ []) (walk : p.cursor.Walks w d) (all : AllIn set w)
    (ended : d.Refuses set) : Prefers (.plus true (.one set)) p ⟨d, p.groups⟩ :=
  (rounds_one walk all ended).plus (walk.offset_lt_iff.mpr some)

theorem prefers_upTo_one (count : Nat) (short : w.length ≤ count) (walk : p.cursor.Walks w d)
    (all : AllIn set w) (ended : d.Refuses set) :
    Prefers (upTo true (.one set) count) p ⟨d, p.groups⟩ := by
  induction count generalizing p w with
  | zero =>
      have empty := List.length_eq_zero_iff.mp (Nat.le_zero.mp short)
      subst empty
      rw [← walk.eq_of_nil]
      rfl
  | succ count ih =>
      cases w with
      | nil =>
          have here := walk.eq_of_nil
          subst here
          have refused := outcomes_one_of_refuses (p := p) ended
          -- Whatever comes behind the first round, it is not reached.
          cases count with
          | zero => exact prefers_optional_of_nil refused
          | succ count => exact prefers_optional_of_nil (outcomes_seq_of_nil refused)
      | cons ch w =>
          obtain ⟨e, first, onward⟩ := Cursor.Walks.of_append (v := [ch]) (w := w) walk
          obtain ⟨allowed, others⟩ := List.forall_mem_cons.mp all
          rw [List.length_cons] at short
          have taken := prefers_one (p := p) allowed first
          have rest := ih (p := ⟨e, p.groups⟩) (by omega) onward others
          cases count with
          | zero =>
              have none := List.length_eq_zero_iff.mp (by omega : w.length = 0)
              subst none
              rw [← onward.eq_of_nil]
              exact taken.optional
          | succ count => exact (taken.seq rest).optional

theorem prefers_repeated_one (high : Nat) (several : 1 < high) (some : w ≠ [])
    (few : w.length ≤ high) (walk : p.cursor.Walks w d) (all : AllIn set w)
    (ended : d.Refuses set) :
    Prefers (repeated true (.one set) 1 (.some high)) p ⟨d, p.groups⟩ := by
  have unfolded : repeated true (.one set) 1 (.some high) =
      .seq (.one set) (upTo true (.one set) (high - 1)) := by
    simp [repeated, several, concat]
  obtain ⟨ch, later, rfl⟩ := List.exists_cons_of_ne_nil some
  obtain ⟨e, first, onward⟩ := Cursor.Walks.of_append (v := [ch]) (w := later) walk
  obtain ⟨allowed, others⟩ := List.forall_mem_cons.mp all
  rw [List.length_cons] at few
  rw [unfolded]
  exact (prefers_one allowed first).seq
    (prefers_upTo_one (p := ⟨e, p.groups⟩) (high - 1) (by omega) onward others ended)

theorem head?_lazy_seq (follow : Progress → List Progress) {q : Progress}
    (walk : p.cursor.Walks w d) (all : AllIn set w) (found : (follow ⟨d, p.groups⟩).head? = some q)
    (refused : ∀ v e u, p.cursor.Walks v e → e.Walks u d → u ≠ [] →
      follow ⟨e, p.groups⟩ = []) (later : Text) (enough : p.cursor.rest.length ≤ later.length) :
    ((roundOutcomes (outcomes (.one set)) false later p).flatMap follow).head? = some q := by
  induction w generalizing p later with
  | nil =>
      rw [← walk.eq_of_nil] at found
      cases later with
      | nil => rw [roundOutcomes, List.flatMap_singleton, found]
      | cons _ later =>
          rw [roundOutcomes, if_neg Bool.false_ne_true, List.flatMap_cons, List.head?_append, found]
          rfl
  | cons ch w ih =>
      obtain ⟨e, first, onward⟩ := Cursor.Walks.of_append (v := [ch]) (w := w) walk
      obtain ⟨allowed, others⟩ := List.forall_mem_cons.mp all
      have moved := first.offset_lt_iff.mpr (List.cons_ne_nil ch [])
      have shorter := first.length_lt (List.cons_ne_nil ch [])
      have here := refused [] p.cursor (ch :: w) (.refl _) walk (List.cons_ne_nil ch w)
      cases later with
      | nil => exact absurd enough (by simp only [List.length_nil]; omega)
      | cons _ later =>
          rw [List.length_cons] at enough
          have rest := ih (p := ⟨e, p.groups⟩) onward others found
            (fun v f u reached => refused (ch :: v) f u (first.trans reached)) later
            (by simp only; omega)
          rw [roundOutcomes, if_neg Bool.false_ne_true, outcomes_one allowed first,
            List.flatMap_singleton, if_pos moved, List.flatMap_cons, here, List.nil_append]
          exact rest

theorem prefers_lazy_seq {b : Regex} (index : Nat) {q : Progress} (walk : p.cursor.Walks w d)
    (all : AllIn set w) (found : Prefers b ⟨d, (index, p.cursor, d) :: p.groups⟩ q)
    (refused : ∀ v e u, p.cursor.Walks v e → e.Walks u d → u ≠ [] →
      outcomes b ⟨e, (index, p.cursor, e) :: p.groups⟩ = []) :
    Prefers (.seq (.group index (.star false (.one set))) b) p q := by
  rw [Prefers, outcomes, outcomes, List.flatMap_map]
  exact head?_lazy_seq (fun m => outcomes b (m.close index p.cursor)) walk all found
    refused _ (Nat.le_refl _)

end Runs

end Regex

end MarkdownHighlight
