import Mathlib.Data.List.Basic
import MarkdownHighlight.Proofs.Regex.Members

/-!
Matching in a part of a text against matching in the whole. When the part is cut
out at line breaks, an expression that only looks around within its line finds
in the whole exactly what it finds in the part, apart from matches that run on
beyond the part; and the order of preference is the same.
-/

namespace MarkdownHighlight

def Cursor.within (lead tail : Text) (c : Cursor) : Cursor where
  before := c.before ++ lead.reverse
  rest := c.rest ++ tail
  offset := lead.size + c.offset
  offset_eq := by rw [Text.size_append, Cursor.size_reverse, c.offset_eq, Nat.add_comm]

def Progress.within (lead tail : Text) (p : Progress) : Progress where
  cursor := p.cursor.within lead tail
  groups := p.groups.map fun (index, opened, closed) =>
    (index, opened.within lead tail, closed.within lead tail)

theorem Progress.within_offset_lt {lead tail : Text} (p q : Progress) :
    (p.within lead tail).cursor.offset < (q.within lead tail).cursor.offset ↔
      p.cursor.offset < q.cursor.offset := Nat.add_lt_add_iff_left

/-- A part of a text is cut out at line breaks. -/
structure Framed (lead tail : Text) : Prop where
  before : ∀ ch, lead.getLast? = some ch → ch = '\n'
  after : ∀ ch, tail.head? = some ch → ch = '\n'

namespace Cursor

variable {lead tail : Text}

theorem previous?_within (c : Cursor) :
    (c.within lead tail).previous? = c.previous?.or lead.getLast? := by
  simp [Cursor.previous?, within, List.head?_append]

theorem next?_within (c : Cursor) : (c.within lead tail).next? = c.next?.or tail.head? := by
  simp [Cursor.next?, within, List.head?_append]

theorem Walks.within {c d : Cursor} {w : Text} (walk : c.Walks w d) :
    (c.within lead tail).Walks w (d.within lead tail) where
  rest_eq := by simp [Cursor.within, walk.rest_eq]
  before_eq := by simp [Cursor.within, walk.before_eq]

theorem within_text (c : Cursor) : (c.within lead tail).text = lead ++ c.text ++ tail := by
  simp [Cursor.text, within]

end Cursor

namespace Framed

variable {lead tail : Text}

/-- Where the part sees nothing, the whole sees nothing or a newline; what does
not tell these apart sees the same in both. -/
theorem previous?_seen {α : Type} (framed : Framed lead tail) (c : Cursor) (see : Option Char → α)
    (same : see none = see (some '\n')) : see (c.within lead tail).previous? = see c.previous? := by
  rw [Cursor.previous?_within]
  cases c.previous? with
  | some ch => rfl
  | none =>
      cases last : lead.getLast? with
      | none => rfl
      | some ch =>
          rw [framed.before ch last]
          exact same.symm

theorem next?_seen {α : Type} (framed : Framed lead tail) (c : Cursor) (see : Option Char → α)
    (same : see none = see (some '\n')) : see (c.within lead tail).next? = see c.next? := by
  rw [Cursor.next?_within]
  cases c.next? with
  | some ch => rfl
  | none =>
      cases first : tail.head? with
      | none => rfl
      | some ch =>
          rw [framed.after ch first]
          exact same.symm

end Framed

theorem Progress.consume?_within {lead tail : Text} (set : CharSet) (p : Progress) {ch : Char}
    (next : p.cursor.next? = some ch) :
    (p.within lead tail).consume? set = (p.consume? set).map (·.within lead tail) := by
  -- There is a character ahead in the part, and it is the one ahead in the whole.
  obtain ⟨d, walk, _⟩ :=
    p.cursor.exists_walk [ch] p.cursor.rest.tail (List.eq_cons_of_mem_head? next)
  have inPart := (Cursor.forward?_eq_some_iff p.cursor d).mpr ⟨ch, walk⟩
  have step : (p.cursor.within lead tail).Walks [ch] (d.within lead tail) := walk.within
  have inWhole := (Cursor.forward?_eq_some_iff _ _).mpr ⟨ch, step⟩
  rw [Progress.consume?, Progress.consume?, Progress.within, Cursor.next?_within, next, inPart,
    inWhole]
  by_cases allowed : set.test ch = true <;> simp [allowed, Progress.within]

namespace Assertion

def isLineLocal : Assertion → Bool
  | .lineStart | .lineEnd => true
  | .wordBoundary letters => !letters.test '\n'
  | _ => false

theorem holds_within {lead tail : Text} (framed : Framed lead tail) (condition : Assertion)
    (closed : condition.isLineLocal = true) (c : Cursor) :
    condition.holds (c.within lead tail) = condition.holds c := by
  cases condition with
  | lineStart => exact framed.previous?_seen c (fun ch? => ch?.all (· == '\n')) rfl
  | lineEnd => exact framed.next?_seen c (fun ch? => ch?.all (· == '\n')) rfl
  | wordBoundary letters =>
      have strange : letters.test '\n' = false := by simpa [isLineLocal] using closed
      have ahead : wordBefore letters (c.within lead tail) = wordBefore letters c :=
        framed.previous?_seen c (fun ch? => ch?.any letters.test) (by simp [strange])
      have behind : wordAfter letters (c.within lead tail) = wordAfter letters c :=
        framed.next?_seen c (fun ch? => ch?.any letters.test) (by simp [strange])
      rw [holds, holds, ahead, behind]
  | _ => cases closed

end Assertion

namespace Regex

def assertions : Regex → List Assertion
  | .empty | .one _ => []
  | .assert condition => [condition]
  | .seq first second | .alt first second => first.assertions ++ second.assertions
  | .star _ body | .plus _ body | .group _ body => body.assertions

theorem rest_lt_of_moved {r : Regex} {p q : Progress} (member : q ∈ outcomes r p)
    (moved : p.cursor.offset < q.cursor.offset) :
    q.cursor.rest.length < p.cursor.rest.length := by
  obtain ⟨w, walk, _⟩ := outcomes_walk r p q member
  exact walk.length_lt (walk.offset_lt_iff.mp moved)

theorem roundOutcomes_at_end (greedy : Bool) (body : Regex) (fuel : Text) (p : Progress)
    (ended : p.cursor.rest = []) : roundOutcomes (outcomes body) greedy fuel p = [p] := by
  cases fuel with
  | nil => rfl
  | cons _ later =>
      have none : ((outcomes body p).flatMap fun q => if p.cursor.offset < q.cursor.offset
          then roundOutcomes (outcomes body) greedy later q else []) = [] := by
        apply List.flatMap_eq_nil_iff.mpr
        intro q member
        apply if_neg
        intro moved
        have := rest_lt_of_moved member moved
        simp [ended] at this
      cases greedy <;> simp [roundOutcomes, none]

/-- The bound on the rounds does not matter once it reaches the rest of the text. -/
theorem roundOutcomes_bound (greedy : Bool) (body : Regex) (fuel fuel' : Text) (p : Progress)
    (enough : p.cursor.rest.length ≤ fuel.length) (enough' : p.cursor.rest.length ≤ fuel'.length) :
    roundOutcomes (outcomes body) greedy fuel p = roundOutcomes (outcomes body) greedy fuel' p := by
  induction fuel generalizing fuel' p with
  | nil =>
      have ended := List.eq_nil_of_length_eq_zero (Nat.le_zero.mp enough)
      rw [roundOutcomes_at_end greedy body _ p ended, roundOutcomes_at_end greedy body _ p ended]
  -- A round that moves leaves less text, so one bound on both sides pays for it.
  | cons _ later ih =>
      cases fuel' with
      | nil =>
          have ended := List.eq_nil_of_length_eq_zero (Nat.le_zero.mp enough')
          rw [roundOutcomes_at_end greedy body _ p ended,
            roundOutcomes_at_end greedy body _ p ended]
      | cons _ later' =>
          rw [List.length_cons] at enough enough'
          have same : ((outcomes body p).flatMap fun q => if p.cursor.offset < q.cursor.offset
              then roundOutcomes (outcomes body) greedy later q else []) =
              (outcomes body p).flatMap fun q => if p.cursor.offset < q.cursor.offset
              then roundOutcomes (outcomes body) greedy later' q else [] := by
            apply List.flatMap_congr
            intro q member
            split
            · rename_i moved
              have := rest_lt_of_moved member moved
              exact ih later' q (by omega) (by omega)
            · rfl
          simp only [roundOutcomes, same]

def again (greedy : Bool) (body : Regex) (p : Progress) : List Progress :=
  (outcomes body p).flatMap fun q =>
    if p.cursor.offset < q.cursor.offset then outcomes (.star greedy body) q else []

theorem outcomes_star (greedy : Bool) (body : Regex) (p : Progress) :
    outcomes (.star greedy body) p =
      if greedy then again greedy body p ++ [p] else p :: again greedy body p := by
  have rounds : ∀ fuel : Text, p.cursor.rest.length ≤ fuel.length + 1 →
      ((outcomes body p).flatMap fun q => if p.cursor.offset < q.cursor.offset
        then roundOutcomes (outcomes body) greedy fuel q else []) = again greedy body p := by
    intro fuel enough
    apply List.flatMap_congr
    intro q member
    split
    · rename_i moved
      have := rest_lt_of_moved member moved
      exact roundOutcomes_bound greedy body _ _ q (by omega) (Nat.le_refl _)
    · rfl
  rw [outcomes]
  cases rest : p.cursor.rest with
  | nil =>
      -- No round moves at the end of the text; a bound of one shows the shape of the rounds.
      have none := rounds [] (by simp [rest])
      rw [← none]
      have ended := roundOutcomes_at_end greedy body [' '] p rest
      rw [roundOutcomes] at ended
      rw [roundOutcomes]
      exact ended.symm
  | cons ch later => rw [roundOutcomes, rounds later (by simp [rest])]

theorem outcomes_plus (greedy : Bool) (body : Regex) (p : Progress) :
    outcomes (.plus greedy body) p = (outcomes body p).flatMap fun q =>
      if p.cursor.offset < q.cursor.offset then outcomes (.star greedy body) q else [q] := rfl

section Window

variable {lead tail : Text}

/-- Does not reach beyond the part that is followed by `tail`. -/
def stays (tail : Text) (q : Progress) : Bool := tail.length ≤ q.cursor.rest.length

theorem stays_within (q : Progress) : stays tail (q.within lead tail) = true := by
  simp [stays, Progress.within, Cursor.within]

theorem filter_outcomes_of_leaves (r : Regex) (q : Progress) (leaves : stays tail q = false) :
    (outcomes r q).filter (stays tail) = [] := by
  apply List.filter_eq_nil_iff.mpr
  intro m member
  obtain ⟨w, walk, _⟩ := outcomes_walk r q m member
  have := walk.length
  simp only [stays, decide_eq_true_eq, decide_eq_false_iff_not] at *
  omega

/-- Only what stays in the part can be gone on from inside the part. -/
theorem filter_flatMap_stays (l : List Progress) (f : Progress → List Progress)
    (leaves : ∀ q, stays tail q = false → (f q).filter (stays tail) = []) :
    (l.flatMap f).filter (stays tail) =
      (l.filter (stays tail)).flatMap fun q => (f q).filter (stays tail) := by
  rw [List.filter_flatMap]
  induction l with
  | nil => rfl
  | cons q later ih =>
      rw [List.flatMap_cons, List.filter_cons, ih]
      cases stay : stays tail q with
      | true => rfl
      | false => simp [leaves q stay]

theorem filter_onward {inWhole inPart : List Progress} {f g : Progress → List Progress}
    (same : inWhole.filter (stays tail) = inPart.map (·.within lead tail))
    (leaves : ∀ q, stays tail q = false → (f q).filter (stays tail) = [])
    (agree : ∀ q ∈ inPart, (f (q.within lead tail)).filter (stays tail) =
      (g q).map (·.within lead tail)) :
    (inWhole.flatMap f).filter (stays tail) = (inPart.flatMap g).map (·.within lead tail) := by
  rw [filter_flatMap_stays inWhole f leaves, same, List.flatMap_map, List.map_flatMap]
  exact List.flatMap_congr agree

/-- What the expression finds in a part of a text is what it finds there in the
whole, as far as it stays in the part. -/
def Windowed (lead tail : Text) (r : Regex) : Prop := ∀ p : Progress,
  (outcomes r (p.within lead tail)).filter (stays tail) = (outcomes r p).map (·.within lead tail)

theorem windowed_one (set : CharSet) : Windowed lead tail (.one set) := by
  intro p
  cases rest : p.cursor.rest with
  -- At the end of the part a character can only be taken from what follows it.
  | nil =>
      have here : outcomes (.one set) p = [] := by
        simp [outcomes, Progress.consume?, Cursor.next?, rest]
      rw [here, List.map_nil]
      apply List.filter_eq_nil_iff.mpr
      intro q member
      obtain ⟨ch, d, _, walk, rfl⟩ := (mem_outcomes_one set _ q).mp member
      have size := walk.length
      simp only [Progress.within, Cursor.within, rest, List.nil_append,
        List.length_singleton] at size
      simp only [stays, decide_eq_true_eq]
      omega
  | cons ch later =>
      have all : ∀ q ∈ outcomes (.one set) (p.within lead tail), stays tail q = true := by
        intro q member
        obtain ⟨_, d, _, walk, rfl⟩ := (mem_outcomes_one set _ q).mp member
        have size := walk.length
        simp only [Progress.within, Cursor.within, rest, List.length_append, List.length_cons,
          List.length_nil] at size
        simp only [stays, decide_eq_true_eq]
        omega
      have next : p.cursor.next? = some ch := by simp [Cursor.next?, rest]
      rw [List.filter_eq_self.mpr all, outcomes, outcomes,
        Progress.consume?_within set p next]
      cases p.consume? set <;> rfl

theorem windowed_star (greedy : Bool) (body : Regex) (windowed : Windowed lead tail body) :
    Windowed lead tail (.star greedy body) := by
  intro p
  -- The induction is on the text that is left: every round that counts takes some of it.
  generalize bound : p.cursor.rest.length = n
  induction n using Nat.strongRecOn generalizing p with
  | ind n rounds =>
      have more : (again greedy body (p.within lead tail)).filter (stays tail) =
          (again greedy body p).map (·.within lead tail) := by
        refine filter_onward (windowed p) (fun q leaves => ?_) fun q member => ?_
        · split
          · exact filter_outcomes_of_leaves _ q leaves
          · rfl
        · simp only [Progress.within_offset_lt]
          split
          · rename_i moved
            exact rounds _ (bound ▸ rest_lt_of_moved member moved) q rfl
          · rfl
      rw [outcomes_star, outcomes_star]
      cases greedy <;> simp [more, stays_within]

theorem windowed_of_lineLocal (framed : Framed lead tail) (r : Regex)
    (closed : ∀ a ∈ r.assertions, a.isLineLocal = true) : Windowed lead tail r := by
  induction r with
  | empty =>
      intro p
      simp [outcomes, stays_within]
  | one set => exact windowed_one set
  | assert condition =>
      intro p
      have same := condition.holds_within framed (closed condition (List.mem_singleton_self _))
        p.cursor
      change ((if condition.holds (p.cursor.within lead tail) then [p.within lead tail]
        else []).filter (stays tail)) = _
      rw [same, outcomes]
      split <;> simp [stays_within]
  | seq first second ihFirst ihSecond =>
      intro p
      have left := ihFirst fun a member => closed a (List.mem_append_left _ member)
      have right := ihSecond fun a member => closed a (List.mem_append_right _ member)
      exact filter_onward (left p) (filter_outcomes_of_leaves second) fun q _ => right q
  | alt first second ihFirst ihSecond =>
      intro p
      have left := ihFirst fun a member => closed a (List.mem_append_left _ member)
      have right := ihSecond fun a member => closed a (List.mem_append_right _ member)
      rw [outcomes, List.filter_append, left, right, outcomes, List.map_append]
  | star greedy body ih => exact windowed_star greedy body (ih closed)
  | plus greedy body ih =>
      intro p
      rw [outcomes_plus, outcomes_plus]
      refine filter_onward (ih closed p) (fun q leaves => ?_) fun q _ => ?_
      · split
        · exact filter_outcomes_of_leaves _ q leaves
        · simp [leaves]
      · simp only [Progress.within_offset_lt]
        split
        · exact windowed_star greedy body (ih closed) q
        · simp [stays_within]
  | group index body ih =>
      intro p
      have same := congrArg (List.map (Progress.close index (p.cursor.within lead tail)))
        (ih closed p)
      simp only [outcomes, List.filter_map, List.map_map] at same ⊢
      exact same

end Window

theorem groups_text (r : Regex) (p q : Progress) (member : q ∈ outcomes r p)
    (known : ∀ g ∈ p.groups, g.2.1.text = p.cursor.text ∧ g.2.2.text = p.cursor.text) :
    ∀ g ∈ q.groups, g.2.1.text = p.cursor.text ∧ g.2.2.text = p.cursor.text := by
  have keeps := outcomes_keep (fun p q => q.cursor.text = p.cursor.text ∧ ∀ g ∈ q.groups,
    g ∈ p.groups ∨ (g.2.1.text = p.cursor.text ∧ g.2.2.text = p.cursor.text)) ?_ ?_ r ?_ ?_ p q
    member
  · intro g inside
    exact (keeps.2 g inside).elim (known g) id
  · exact fun p => ⟨rfl, fun g inside => Or.inl inside⟩
  · rintro p m q ⟨first, former⟩ ⟨second, latter⟩
    refine ⟨second.trans first, fun g inside => ?_⟩
    rcases latter g inside with old | new
    · exact former g old
    · rw [first] at new
      exact Or.inr new
  · intro set _ p q consumed
    obtain ⟨ch, d, _, walk, rfl⟩ := (consume?_eq_some_iff set p q).mp consumed
    exact ⟨walk.text, fun g inside => Or.inl inside⟩
  · rintro index _ p q ⟨same, old⟩
    refine ⟨same, fun g inside => ?_⟩
    rcases List.mem_cons.mp inside with rfl | before
    · exact Or.inr ⟨rfl, same⟩
    · exact old g before

end Regex

def Match.within (lead tail : Text) (m : Match) : Match where
  start := m.start.within lead tail
  stop := m.stop.within lead tail
  groups := m.groups.map fun (index, opened, closed) =>
    (index, opened.within lead tail, closed.within lead tail)

/-- In the whole text an expression matches at a place of the part as it does in
the part alone, unless it matches beyond the part. -/
theorem Regex.matchAt?_within {lead tail : Text} (framed : Framed lead tail) (r : Regex)
    (closed : ∀ a ∈ r.assertions, a.isLineLocal = true) (c : Cursor)
    (stay : ∀ m, r.matchAt? (c.within lead tail) = some m → tail.length ≤ m.stop.rest.length) :
    r.matchAt? (c.within lead tail) = (r.matchAt? c).map (·.within lead tail) := by
  have windowed := windowed_of_lineLocal framed r closed ⟨c, []⟩
  have start : (⟨c, []⟩ : Progress).within lead tail = ⟨c.within lead tail, []⟩ := rfl
  rw [start] at windowed
  rw [matchAt?_eq_head?] at stay ⊢
  rw [matchAt?_eq_head?]
  cases found : outcomes r ⟨c.within lead tail, []⟩ with
  | nil =>
      rw [found, List.filter_nil] at windowed
      rw [List.map_eq_nil_iff.mp windowed.symm]
      rfl
  | cons q later =>
      have stayed : stays tail q = true := by
        rw [found] at stay
        exact decide_eq_true (stay _ rfl)
      rw [found, List.filter_cons_of_pos stayed] at windowed
      obtain ⟨q', others, inPart, rfl, _⟩ := List.map_eq_cons_iff.mp windowed.symm
      rw [inPart]
      rfl

end MarkdownHighlight
