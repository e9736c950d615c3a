import MarkdownHighlight.Proofs.Text.Walk
import MarkdownHighlight.Regex.Matching

/-!
All the ways in which a regular expression can match at a place, the most
preferred first. The backtracking search returns the first of them that its
continuation accepts, so a statement about a match is a statement about the
head of this list, and a statement about every attempt is one about its members.
-/

namespace MarkdownHighlight.Regex

/-- Where rounds of a body can end, in the order in which they are tried. -/
def roundOutcomes (body : Progress → List Progress) (greedy : Bool) :
    Text → Progress → List Progress
  | [], p => [p]
  | _ :: later, p =>
      let more := (body p).flatMap fun q =>
        if p.cursor.offset < q.cursor.offset then roundOutcomes body greedy later q else []
      if greedy then more ++ [p] else p :: more

def outcomes : Regex → Progress → List Progress
  | .empty, p => [p]
  | .one set, p => (p.consume? set).toList
  | .assert condition, p => if condition.holds p.cursor then [p] else []
  | .seq first second, p => (outcomes first p).flatMap (outcomes second)
  | .alt first second, p => outcomes first p ++ outcomes second p
  | .star greedy body, p => roundOutcomes (outcomes body) greedy p.cursor.rest p
  | .plus greedy body, p => (outcomes body p).flatMap fun q =>
      if p.cursor.offset < q.cursor.offset then
        roundOutcomes (outcomes body) greedy q.cursor.rest q
      else [q]
  | .group index body, p => (outcomes body p).map (·.close index p.cursor)

theorem findSome?_flatMap {α β γ : Type} (l : List α) (f : α → List β) (g : β → Option γ) :
    (l.flatMap f).findSome? g = l.findSome? fun a => (f a).findSome? g := by
  induction l with
  | nil => rfl
  | cons a rest ih =>
      rw [List.flatMap_cons, List.findSome?_append, ih, List.findSome?_cons]
      cases (f a).findSome? g <;> rfl

variable {Result : Type}

theorem rounds_eq_findSome? (greedy : Bool)
    (body : Progress → (Progress → Option Result) → Option Result)
    (ends : Progress → List Progress)
    (agree : ∀ p next, body p next = (ends p).findSome? next)
    (later : Text) (p : Progress) (next : Progress → Option Result) :
    rounds body greedy later p next = (roundOutcomes ends greedy later p).findSome? next := by
  induction later generalizing p with
  | nil => simp [rounds, roundOutcomes]
  | cons _ later ih =>
      -- One more round of the body, then as many as the shorter bound allows.
      have again : (body p fun q =>
          if p.cursor.offset < q.cursor.offset then rounds body greedy later q next else none) =
          ((ends p).flatMap fun q => if p.cursor.offset < q.cursor.offset
            then roundOutcomes ends greedy later q else []).findSome? next := by
        rw [agree, findSome?_flatMap]
        congr 1
        funext q
        split
        · exact ih q
        · rfl
      cases greedy with
      | true =>
          simp only [rounds, roundOutcomes, if_true]
          rw [again, List.findSome?_append]
          cases List.findSome? next _ <;> simp
      | false =>
          simp only [rounds, roundOutcomes, Bool.false_eq_true, if_false]
          rw [again, List.findSome?_cons]
          cases next p <;> simp

/-- The search with a continuation returns its first accepted outcome. -/
theorem run_eq_findSome? (r : Regex) (p : Progress) (next : Progress → Option Result) :
    r.run p next = (r.outcomes p).findSome? next := by
  induction r generalizing p next with
  | empty => simp [run, outcomes]
  | one set =>
      simp only [run, outcomes]
      cases p.consume? set <;> simp
  | assert condition =>
      simp only [run, outcomes]
      split <;> simp
  | seq first second ihFirst ihSecond =>
      simp only [run, outcomes]
      rw [ihFirst, findSome?_flatMap]
      congr 1
      funext q
      exact ihSecond q next
  | alt first second ihFirst ihSecond =>
      simp only [run, outcomes]
      rw [ihFirst, ihSecond, List.findSome?_append]
      cases List.findSome? next (outcomes first p) <;> rfl
  | star greedy body ih =>
      exact rounds_eq_findSome? greedy _ _ (fun p next => ih p next) _ p next
  | plus greedy body ih =>
      simp only [run, outcomes]
      rw [ih, findSome?_flatMap]
      congr 1
      funext q
      split
      · exact rounds_eq_findSome? greedy _ _ (fun p next => ih p next) _ q next
      · simp
  | group index body ih =>
      simp only [run, outcomes]
      rw [ih, List.findSome?_map]
      rfl

theorem matchAt?_eq_head? (r : Regex) (c : Cursor) :
    r.matchAt? c = (r.outcomes ⟨c, []⟩).head?.map fun q => ⟨c, q.cursor, q.groups⟩ := by
  rw [matchAt?, run_eq_findSome?]
  cases r.outcomes ⟨c, []⟩ <;> rfl

theorem search?_eq (r : Regex) (c : Cursor) :
    r.search? c = (r.matchAt? c).orElse fun _ =>
      match c.forward? with
      | none => none
      | some next => r.search? next := by
  obtain ⟨before, rest, offset, offset_eq⟩ := c
  -- The search is bounded by the text that is left; one step forward leaves just the
  -- bound that the search from there starts with.
  cases rest with
  | nil =>
      simp only [search?, searchWithin, Cursor.forward?]
      cases r.matchAt? _ <;> rfl
  | cons ch later => rfl

theorem mem_roundOutcomes_cons (ends : Progress → List Progress) (greedy : Bool) (ch : Char)
    (later : Text) (p q : Progress) :
    q ∈ roundOutcomes ends greedy (ch :: later) p ↔
      q = p ∨ ∃ m ∈ ends p, p.cursor.offset < m.cursor.offset ∧
        q ∈ roundOutcomes ends greedy later m := by
  have split : q ∈ ((ends p).flatMap fun m => if p.cursor.offset < m.cursor.offset
      then roundOutcomes ends greedy later m else []) ↔
      ∃ m ∈ ends p, p.cursor.offset < m.cursor.offset ∧
        q ∈ roundOutcomes ends greedy later m := by
    rw [List.mem_flatMap]
    apply exists_congr
    intro m
    apply and_congr_right
    intro _
    by_cases later : p.cursor.offset < m.cursor.offset <;> simp [later]
  cases greedy with
  | true =>
      simp only [roundOutcomes, if_true]
      rw [List.mem_append, split, List.mem_singleton]
      exact Or.comm
  | false =>
      simp only [roundOutcomes, Bool.false_eq_true, if_false]
      rw [List.mem_cons, split]

theorem roundOutcomes_keep (Keeps : Progress → Progress → Prop) (refl : ∀ p, Keeps p p)
    (trans : ∀ p m q, Keeps p m → Keeps m q → Keeps p q) (ends : Progress → List Progress)
    (greedy : Bool) (step : ∀ p, ∀ q ∈ ends p, Keeps p q) (later : Text) (p q : Progress)
    (member : q ∈ roundOutcomes ends greedy later p) : Keeps p q := by
  induction later generalizing p with
  | nil =>
      rw [roundOutcomes, List.mem_singleton] at member
      subst q
      exact refl p
  | cons ch later ih =>
      rcases (mem_roundOutcomes_cons ends greedy ch later p q).mp member with
        same | ⟨m, ended, _, rest⟩
      · subst q
        exact refl p
      · exact trans p m q (step p m ended) (ih m rest)

theorem mem_outcomes_plus (greedy : Bool) (body : Regex) (p q : Progress) :
    q ∈ outcomes (.plus greedy body) p ↔ ∃ m ∈ outcomes body p,
      (p.cursor.offset < m.cursor.offset ∧ q ∈ outcomes (.star greedy body) m) ∨
        (¬ p.cursor.offset < m.cursor.offset ∧ q = m) := by
  simp only [outcomes, List.mem_flatMap]
  apply exists_congr
  intro m
  apply and_congr_right
  intro _
  by_cases later : p.cursor.offset < m.cursor.offset <;> simp [later]

def sets : Regex → List CharSet
  | .empty | .assert _ => []
  | .one set => [set]
  | .seq first second | .alt first second => first.sets ++ second.sets
  | .star _ body | .plus _ body | .group _ body => body.sets

def groupIndices : Regex → List Nat
  | .empty | .assert _ | .one _ => []
  | .seq first second | .alt first second => first.groupIndices ++ second.groupIndices
  | .star _ body | .plus _ body => body.groupIndices
  | .group index body => index :: body.groupIndices

/-- Every outcome is related to its start by a transitive relation that holds of
each consumed character and survives the closing of a group. -/
theorem outcomes_keep (Keeps : Progress → Progress → Prop) (refl : ∀ p, Keeps p p)
    (trans : ∀ p m q, Keeps p m → Keeps m q → Keeps p q) (r : Regex)
    (consume : ∀ set ∈ r.sets, ∀ p q, p.consume? set = some q → Keeps p q)
    (close : ∀ index ∈ r.groupIndices, ∀ p q, Keeps p q → Keeps p (q.close index p.cursor))
    (p q : Progress) (member : q ∈ r.outcomes p) : Keeps p q := by
  induction r generalizing p q with
  | empty =>
      rw [outcomes, List.mem_singleton] at member
      subst q
      exact refl p
  | one set =>
      rw [outcomes, Option.mem_toList] at member
      exact consume set (List.mem_singleton_self set) p q member
  | assert condition =>
      simp only [outcomes] at member
      split at member
      · rw [List.mem_singleton] at member
        subst q
        exact refl p
      · cases member
  | seq first second ihFirst ihSecond =>
      obtain ⟨m, former, latter⟩ := List.mem_flatMap.mp member
      have left := ihFirst (fun set inside => consume set (List.mem_append_left _ inside))
        (fun index inside => close index (List.mem_append_left _ inside)) p m former
      have right := ihSecond (fun set inside => consume set (List.mem_append_right _ inside))
        (fun index inside => close index (List.mem_append_right _ inside)) m q latter
      exact trans p m q left right
  | alt first second ihFirst ihSecond =>
      rcases List.mem_append.mp member with left | right
      · exact ihFirst (fun set inside => consume set (List.mem_append_left _ inside))
          (fun index inside => close index (List.mem_append_left _ inside)) p q left
      · exact ihSecond (fun set inside => consume set (List.mem_append_right _ inside))
          (fun index inside => close index (List.mem_append_right _ inside)) p q right
  | star greedy body ih =>
      exact roundOutcomes_keep Keeps refl trans _ greedy (fun p q => ih consume close p q) _ p q
        member
  | plus greedy body ih =>
      obtain ⟨m, former, latter⟩ := (mem_outcomes_plus greedy body p q).mp member
      have round := ih consume close p m former
      rcases latter with ⟨_, rest⟩ | ⟨_, same⟩
      · exact trans p m q round
          (roundOutcomes_keep Keeps refl trans _ greedy (fun p q => ih consume close p q) _ m q
            rest)
      · subst q
        exact round
  | group index body ih =>
      obtain ⟨m, inner, rfl⟩ := List.mem_map.mp member
      exact close index List.mem_cons_self p m
        (ih consume (fun index inside => close index (List.mem_cons_of_mem _ inside)) p m inner)

theorem consume?_eq_some_iff (set : CharSet) (p q : Progress) :
    p.consume? set = some q ↔
      ∃ ch d, set.test ch = true ∧ p.cursor.Walks [ch] d ∧ q = ⟨d, p.groups⟩ := by
  -- Once the character is known, consuming is a test of the set and a step.
  have step : ∀ ch, p.cursor.next? = some ch → (p.consume? set = some q ↔
      set.test ch = true ∧ ∃ d, p.cursor.forward? = some d ∧ q = ⟨d, p.groups⟩) := by
    intro ch next
    simp only [Progress.consume?, next]
    by_cases allowed : set.test ch = true
    · cases p.cursor.forward? <;> simp [allowed, eq_comm]
    · simp [allowed]
  constructor
  · intro found
    cases next : p.cursor.next? with
    | none => simp [Progress.consume?, next] at found
    | some ch =>
        obtain ⟨allowed, d, forward, rfl⟩ := (step ch next).mp found
        obtain ⟨other, walk⟩ := (Cursor.forward?_eq_some_iff _ _).mp forward
        have same : other = ch := by
          have := walk.next?.symm.trans next
          simpa using this
        exact ⟨ch, d, allowed, same ▸ walk, rfl⟩
  · rintro ⟨ch, d, allowed, walk, rfl⟩
    exact (step ch walk.next?).mpr
      ⟨allowed, d, (Cursor.forward?_eq_some_iff _ _).mpr ⟨ch, walk⟩, rfl⟩

theorem outcomes_walk (r : Regex) (p q : Progress) (member : q ∈ r.outcomes p) :
    ∃ w, p.cursor.Walks w q.cursor ∧ ∀ ch ∈ w, ∃ set ∈ r.sets, set.test ch = true := by
  refine outcomes_keep (fun p q => ∃ w, p.cursor.Walks w q.cursor ∧
    ∀ ch ∈ w, ∃ set ∈ r.sets, set.test ch = true) ?_ ?_ r ?_ ?_ p q member
  · exact fun p => ⟨[], .refl _, by simp⟩
  · rintro p m q ⟨v, first, former⟩ ⟨w, second, latter⟩
    refine ⟨v ++ w, first.trans second, fun ch inside => ?_⟩
    exact (List.mem_append.mp inside).elim (former ch) (latter ch)
  · intro set present p q consumed
    obtain ⟨ch, d, allowed, walk, rfl⟩ := (consume?_eq_some_iff set p q).mp consumed
    refine ⟨[ch], walk, fun other inside => ⟨set, present, ?_⟩⟩
    rwa [List.mem_singleton.mp inside]
  · exact fun _ _ _ _ walk => walk

end MarkdownHighlight.Regex
