import MarkdownHighlight.Proofs.Regex.Outcomes

/-!
What the outcomes of the common forms of expressions are, as walks over the
text: one character, a run of one set, a literal, an optional part, a counted
repetition. A greedy run is tried from its longest extent down, so what follows
a shorter run was refused after every longer one.
-/

namespace MarkdownHighlight.Regex

def AllIn (set : CharSet) (w : Text) : Prop := ∀ ch ∈ w, set.test ch = true

instance (set : CharSet) (w : Text) : Decidable (AllIn set w) := List.decidableBAll _ w

theorem test_ofItems_singles (cs : Text) (ch : Char) :
    (CharSet.ofItems (cs.map .single)).test ch = cs.contains ch := by
  induction cs with
  | nil => rfl
  | cons c later ih =>
      cases later with
      | nil => rw [Bool.eq_iff_iff]; simp [CharSet.ofItems, CharSet.test]
      | cons d others =>
          simp only [List.map_cons, CharSet.ofItems, CharSet.test, List.contains_cons] at ih ⊢
          rw [ih]

@[simp] theorem test_oneOf (cs : String) (ch : Char) :
    (CharSet.oneOf cs).test ch = cs.toList.contains ch :=
  test_ofItems_singles cs.toList ch

theorem forall_of_oneOf (cs : String) {w : Text} {P : Char → Prop} (each : ∀ ch ∈ cs.toList, P ch)
    (all : AllIn (.oneOf cs) w) : ∀ ch ∈ w, P ch := by
  intro ch inside
  have member := all ch inside
  rw [test_oneOf, List.contains_iff_mem] at member
  exact each ch member

theorem AllIn.apart {set : CharSet} {w : Text} (all : AllIn set w) (cs : String)
    (refused : ∀ ch ∈ cs.toList, set.test ch = false) :
    ∀ ch ∈ w, (CharSet.oneOf cs).test ch = false := by
  intro ch inside
  rw [test_oneOf, Bool.eq_false_iff, ne_eq, List.contains_iff_mem]
  intro listed
  have strange := refused ch listed
  rw [all ch inside] at strange
  cases strange

theorem mem_outcomes_seq (first second : Regex) (p q : Progress) :
    q ∈ outcomes (.seq first second) p ↔
      ∃ m ∈ outcomes first p, q ∈ outcomes second m := List.mem_flatMap

theorem mem_outcomes_alt (first second : Regex) (p q : Progress) :
    q ∈ outcomes (.alt first second) p ↔ q ∈ outcomes first p ∨ q ∈ outcomes second p :=
  List.mem_append

theorem mem_outcomes_group (index : Nat) (body : Regex) (p q : Progress) :
    q ∈ outcomes (.group index body) p ↔
      ∃ m ∈ outcomes body p, q = m.close index p.cursor := by
  simp only [outcomes, List.mem_map, eq_comm]

theorem mem_outcomes_empty (p q : Progress) : q ∈ outcomes .empty p ↔ q = p :=
  List.mem_singleton

theorem mem_outcomes_assert (condition : Assertion) (p q : Progress) :
    q ∈ outcomes (.assert condition) p ↔ condition.holds p.cursor = true ∧ q = p := by
  simp only [outcomes]
  by_cases held : condition.holds p.cursor = true <;> simp [held]

theorem mem_outcomes_one (set : CharSet) (p q : Progress) :
    q ∈ outcomes (.one set) p ↔
      ∃ ch d, set.test ch = true ∧ p.cursor.Walks [ch] d ∧ q = ⟨d, p.groups⟩ := by
  rw [outcomes, Option.mem_toList, consume?_eq_some_iff]

theorem mem_outcomes_char (c : Char) (p q : Progress) :
    q ∈ outcomes (char c) p ↔ ∃ d, p.cursor.Walks [c] d ∧ q = ⟨d, p.groups⟩ := by
  rw [char, mem_outcomes_one]
  constructor
  · rintro ⟨ch, d, same, walk, rfl⟩
    have : ch = c := by simpa [CharSet.test] using same
    exact ⟨d, this ▸ walk, rfl⟩
  · rintro ⟨d, walk, rfl⟩
    exact ⟨c, d, by simp [CharSet.test], walk, rfl⟩

theorem mem_outcomes_optional (greedy : Bool) (r : Regex) (p q : Progress) :
    q ∈ outcomes (optional greedy r) p ↔ q ∈ outcomes r p ∨ q = p := by
  cases greedy <;> simp [optional, outcomes, or_comm]

theorem mem_outcomes_concat_cons (r : Regex) (later : List Regex) (p q : Progress) :
    q ∈ outcomes (concat (r :: later)) p ↔ ∃ m ∈ outcomes r p, q ∈ outcomes (concat later) m := by
  cases later with
  | nil => simp [concat, mem_outcomes_empty]
  | cons next later => exact mem_outcomes_seq ..

theorem mem_outcomes_chars (cs : Text) (p q : Progress) :
    q ∈ outcomes (concat (cs.map char)) p ↔ ∃ d, p.cursor.Walks cs d ∧ q = ⟨d, p.groups⟩ := by
  induction cs generalizing p with
  | nil =>
      constructor
      · intro member
        exact ⟨p.cursor, .refl _, (mem_outcomes_empty p q).mp member⟩
      · rintro ⟨d, walk, rfl⟩
        exact (mem_outcomes_empty p _).mpr (by rw [← walk.eq_of_nil])
  | cons c cs ih =>
      rw [List.map_cons, mem_outcomes_concat_cons]
      constructor
      · rintro ⟨m, former, latter⟩
        obtain ⟨e, first, rfl⟩ := (mem_outcomes_char c p m).mp former
        obtain ⟨d, second, rfl⟩ := (ih _).mp latter
        exact ⟨d, first.trans second, rfl⟩
      · rintro ⟨d, walk, rfl⟩
        obtain ⟨e, first, second⟩ := Cursor.Walks.of_append (v := [c]) (w := cs) walk
        exact ⟨⟨e, p.groups⟩, (mem_outcomes_char c p _).mpr ⟨e, first, rfl⟩,
          (ih _).mpr ⟨d, second, rfl⟩⟩

theorem mem_outcomes_literal (text : String) (p q : Progress) :
    q ∈ outcomes (literal text) p ↔
      ∃ d, p.cursor.Walks text.toList d ∧ q = ⟨d, p.groups⟩ :=
  mem_outcomes_chars text.toList p q

theorem mem_roundOutcomes_one (greedy : Bool) (set : CharSet) (later : Text) (p q : Progress)
    (enough : p.cursor.rest.length ≤ later.length) :
    q ∈ roundOutcomes (outcomes (.one set)) greedy later p ↔
      ∃ w d, p.cursor.Walks w d ∧ AllIn set w ∧ q = ⟨d, p.groups⟩ := by
  -- The rounds are bounded by a text that is at least as long as the rest, and every
  -- round takes one character of both, so the bound never ends the run.
  induction later generalizing p with
  | nil =>
      have none : p.cursor.rest = [] := List.length_eq_zero_iff.mp (Nat.le_zero.mp enough)
      rw [roundOutcomes, List.mem_singleton]
      constructor
      · rintro rfl
        exact ⟨[], q.cursor, .refl _, by simp [AllIn], rfl⟩
      · rintro ⟨w, d, walk, _, rfl⟩
        have empty : w = [] := by
          have := walk.rest_eq
          rw [none] at this
          exact (List.append_eq_nil_iff.mp this.symm).1
        subst empty
        rw [← walk.eq_of_nil]
  | cons ch later ih =>
      rw [mem_roundOutcomes_cons]
      constructor
      · rintro (rfl | ⟨m, once, _, rest⟩)
        · exact ⟨[], q.cursor, .refl _, by simp [AllIn], rfl⟩
        · obtain ⟨c, e, allowed, first, rfl⟩ := (mem_outcomes_one set p m).mp once
          have shorter : e.rest.length ≤ later.length := by
            have := first.length
            simp only [List.length_cons, List.length_nil] at this enough
            omega
          obtain ⟨w, d, second, all, rfl⟩ := (ih _ shorter).mp rest
          exact ⟨c :: w, d, first.trans second, List.forall_mem_cons.mpr ⟨allowed, all⟩, rfl⟩
      · rintro ⟨w, d, walk, all, rfl⟩
        cases w with
        | nil => exact Or.inl (by rw [← walk.eq_of_nil])
        | cons c w =>
            obtain ⟨e, first, second⟩ := Cursor.Walks.of_append (v := [c]) (w := w) walk
            have shorter : e.rest.length ≤ later.length := by
              have := first.length
              simp only [List.length_cons, List.length_nil] at this enough
              omega
            obtain ⟨allowed, others⟩ := List.forall_mem_cons.mp all
            refine Or.inr ⟨⟨e, p.groups⟩, (mem_outcomes_one set p _).mpr
              ⟨c, e, allowed, first, rfl⟩, first.offset_lt_iff.mpr (by simp), ?_⟩
            exact (ih _ shorter).mpr ⟨w, d, second, others, rfl⟩

theorem mem_outcomes_star_one (greedy : Bool) (set : CharSet) (p q : Progress) :
    q ∈ outcomes (.star greedy (.one set)) p ↔
      ∃ w d, p.cursor.Walks w d ∧ AllIn set w ∧ q = ⟨d, p.groups⟩ :=
  mem_roundOutcomes_one greedy set _ p q (Nat.le_refl _)

theorem mem_outcomes_plus_one (greedy : Bool) (set : CharSet) (p q : Progress) :
    q ∈ outcomes (.plus greedy (.one set)) p ↔
      ∃ w d, w ≠ [] ∧ p.cursor.Walks w d ∧ AllIn set w ∧ q = ⟨d, p.groups⟩ := by
  rw [mem_outcomes_plus]
  constructor
  · rintro ⟨m, once, rest⟩
    obtain ⟨c, e, allowed, first, rfl⟩ := (mem_outcomes_one set p m).mp once
    have moved := first.offset_lt_iff.mpr (by simp)
    rcases rest with ⟨_, rest⟩ | ⟨stuck, _⟩
    · obtain ⟨w, d, second, all, rfl⟩ := (mem_outcomes_star_one greedy set _ q).mp rest
      exact ⟨c :: w, d, by simp, first.trans second, List.forall_mem_cons.mpr ⟨allowed, all⟩, rfl⟩
    · exact absurd moved stuck
  · rintro ⟨w, d, some, walk, all, rfl⟩
    cases w with
    | nil => exact absurd rfl some
    | cons c w =>
        obtain ⟨e, first, second⟩ := Cursor.Walks.of_append (v := [c]) (w := w) walk
        obtain ⟨allowed, others⟩ := List.forall_mem_cons.mp all
        refine ⟨⟨e, p.groups⟩, (mem_outcomes_one set p _).mpr ⟨c, e, allowed, first, rfl⟩, ?_⟩
        exact Or.inl ⟨first.offset_lt_iff.mpr (by simp),
          (mem_outcomes_star_one greedy set _ _).mpr ⟨w, d, second, others, rfl⟩⟩

theorem mem_outcomes_upTo_one (greedy : Bool) (set : CharSet) (count : Nat) (p q : Progress) :
    q ∈ outcomes (upTo greedy (.one set) count) p ↔
      ∃ w d, w.length ≤ count ∧ p.cursor.Walks w d ∧ AllIn set w ∧ q = ⟨d, p.groups⟩ := by
  induction count generalizing p with
  | zero =>
      rw [upTo, mem_outcomes_empty]
      constructor
      · rintro rfl
        exact ⟨[], q.cursor, Nat.le_refl 0, .refl _, by simp [AllIn], rfl⟩
      · rintro ⟨w, d, short, walk, _, rfl⟩
        have empty := List.length_eq_zero_iff.mp (Nat.le_zero.mp short)
        subst empty
        rw [← walk.eq_of_nil]
  | succ count ih =>
      -- The last optional round has its own case in the definition.
      have unfolded : q ∈ outcomes (upTo greedy (.one set) (count + 1)) p ↔
          (∃ m ∈ outcomes (.one set) p, q ∈ outcomes (upTo greedy (.one set) count) m) ∨ q = p := by
        cases count with
        | zero => simp [upTo, mem_outcomes_optional, mem_outcomes_empty]
        | succ count => rw [upTo, mem_outcomes_optional, mem_outcomes_seq]
      rw [unfolded]
      constructor
      · rintro (⟨m, once, rest⟩ | rfl)
        · obtain ⟨c, e, allowed, first, rfl⟩ := (mem_outcomes_one set p m).mp once
          obtain ⟨w, d, short, second, all, rfl⟩ := (ih _).mp rest
          exact ⟨c :: w, d, Nat.succ_le_succ short, first.trans second,
            List.forall_mem_cons.mpr ⟨allowed, all⟩, rfl⟩
        · exact ⟨[], q.cursor, Nat.zero_le _, .refl _, by simp [AllIn], rfl⟩
      · rintro ⟨w, d, short, walk, all, rfl⟩
        cases w with
        | nil => exact Or.inr (by rw [← walk.eq_of_nil])
        | cons c w =>
            obtain ⟨e, first, second⟩ := Cursor.Walks.of_append (v := [c]) (w := w) walk
            obtain ⟨allowed, others⟩ := List.forall_mem_cons.mp all
            exact Or.inl ⟨⟨e, p.groups⟩, (mem_outcomes_one set p _).mpr
              ⟨c, e, allowed, first, rfl⟩,
              (ih _).mpr ⟨w, d, Nat.le_of_succ_le_succ short, second, others, rfl⟩⟩

theorem mem_outcomes_repeated_one (greedy : Bool) (set : CharSet) (high : Nat)
    (several : 1 < high) (p q : Progress) :
    q ∈ outcomes (repeated greedy (.one set) 1 (some high)) p ↔
      ∃ w d, w ≠ [] ∧ w.length ≤ high ∧ p.cursor.Walks w d ∧ AllIn set w ∧ q = ⟨d, p.groups⟩ := by
  have unfolded : repeated greedy (.one set) 1 (some high) =
      .seq (.one set) (upTo greedy (.one set) (high - 1)) := by
    simp [repeated, several, concat]
  rw [unfolded, mem_outcomes_seq]
  constructor
  · rintro ⟨m, once, rest⟩
    obtain ⟨c, e, allowed, first, rfl⟩ := (mem_outcomes_one set p m).mp once
    obtain ⟨w, d, short, second, all, rfl⟩ := (mem_outcomes_upTo_one greedy set _ _ q).mp rest
    refine ⟨c :: w, d, by simp, ?_, first.trans second,
      List.forall_mem_cons.mpr ⟨allowed, all⟩, rfl⟩
    rw [List.length_cons]
    omega
  · rintro ⟨w, d, some, short, walk, all, rfl⟩
    cases w with
    | nil => exact absurd rfl some
    | cons c w =>
        obtain ⟨e, first, second⟩ := Cursor.Walks.of_append (v := [c]) (w := w) walk
        obtain ⟨allowed, others⟩ := List.forall_mem_cons.mp all
        rw [List.length_cons] at short
        exact ⟨⟨e, p.groups⟩, (mem_outcomes_one set p _).mpr ⟨c, e, allowed, first, rfl⟩,
          (mem_outcomes_upTo_one greedy set _ _ _).mpr ⟨w, d, by omega, second, others, rfl⟩⟩

theorem mem_outcomes_star_units (greedy : Bool) (body : Regex) (Unit : Text → Prop)
    (spells : ∀ p, ∀ q ∈ outcomes body p, ∃ u d, Unit u ∧ p.cursor.Walks u d ∧ q = ⟨d, p.groups⟩)
    (p q : Progress) (member : q ∈ outcomes (.star greedy body) p) :
    ∃ (units : List Text) (d : Cursor), (∀ u ∈ units, Unit u) ∧
      p.cursor.Walks units.flatten d ∧ q = ⟨d, p.groups⟩ := by
  refine roundOutcomes_keep (fun p q => ∃ (units : List Text) (d : Cursor),
    (∀ u ∈ units, Unit u) ∧ p.cursor.Walks units.flatten d ∧ q = ⟨d, p.groups⟩)
    ?_ ?_ _ greedy ?_ _ p q member
  · exact fun p => ⟨[], p.cursor, by simp, .refl _, rfl⟩
  · rintro p m q ⟨former, e, formerUnits, first, rfl⟩ ⟨latter, d, latterUnits, second, rfl⟩
    refine ⟨former ++ latter, d, ?_, ?_, rfl⟩
    · intro u inside
      exact (List.mem_append.mp inside).elim (formerUnits u) (latterUnits u)
    · rw [List.flatten_append]
      exact first.trans second
  · intro p q once
    obtain ⟨u, d, unit, walk, rfl⟩ := spells p q once
    exact ⟨[u], d, by simpa using unit, by simpa using walk, rfl⟩

theorem mem_outcomes_plus_units (greedy : Bool) (body : Regex) (Unit : Text → Prop)
    (spells : ∀ p, ∀ q ∈ outcomes body p, ∃ u d, Unit u ∧ p.cursor.Walks u d ∧ q = ⟨d, p.groups⟩)
    (p q : Progress) (member : q ∈ outcomes (.plus greedy body) p) :
    ∃ (units : List Text) (d : Cursor), units ≠ [] ∧ (∀ u ∈ units, Unit u) ∧
      p.cursor.Walks units.flatten d ∧ q = ⟨d, p.groups⟩ := by
  obtain ⟨m, once, rest⟩ := (mem_outcomes_plus greedy body p q).mp member
  obtain ⟨u, e, unit, first, rfl⟩ := spells p m once
  rcases rest with ⟨_, rest⟩ | ⟨_, rfl⟩
  · obtain ⟨units, d, others, second, rfl⟩ :=
      mem_outcomes_star_units greedy body Unit spells _ q rest
    exact ⟨u :: units, d, by simp, List.forall_mem_cons.mpr ⟨unit, others⟩, first.trans second, rfl⟩
  · exact ⟨[u], e, by simp, by simpa using unit, by simpa using first, rfl⟩

section Units

variable (greedy : Bool) {body : Regex} {Unit : Text → Prop}

/-- Any units in a row can be read by as many rounds, if every unit is consumed by one. -/
theorem mem_roundOutcomes_units (some : ∀ u, Unit u → u ≠ [])
    (spelled : ∀ (p : Progress) (u : Text) (d : Cursor), Unit u → p.cursor.Walks u d →
      ⟨d, p.groups⟩ ∈ outcomes body p)
    {units : List Text} (all : ∀ u ∈ units, Unit u) (later : Text) (p : Progress) {d : Cursor}
    (enough : p.cursor.rest.length ≤ later.length) (walk : p.cursor.Walks units.flatten d) :
    ⟨d, p.groups⟩ ∈ roundOutcomes (outcomes body) greedy later p := by
  induction units generalizing p later with
  | nil =>
      rw [← walk.eq_of_nil]
      cases later with
      | nil => exact List.mem_singleton_self _
      | cons => exact (mem_roundOutcomes_cons ..).mpr (Or.inl rfl)
  | cons u units ih =>
      obtain ⟨unit, others⟩ := List.forall_mem_cons.mp all
      rw [List.flatten_cons] at walk
      obtain ⟨e, first, onward⟩ := walk.of_append
      have shorter := first.length_lt (some u unit)
      cases later with
      | nil => exact absurd enough (by simp only [List.length_nil]; omega)
      | cons ch later =>
          rw [List.length_cons] at enough
          have rest := ih others later ⟨e, p.groups⟩ (by simp only; omega) onward
          exact (mem_roundOutcomes_cons ..).mpr (Or.inr ⟨⟨e, p.groups⟩, spelled p u e unit first,
            first.offset_lt_iff.mpr (some u unit), rest⟩)

theorem mem_outcomes_plus_units_of (some : ∀ u, Unit u → u ≠ [])
    (spelled : ∀ (p : Progress) (u : Text) (d : Cursor), Unit u → p.cursor.Walks u d →
      ⟨d, p.groups⟩ ∈ outcomes body p)
    {units : List Text} (filled : units ≠ []) (all : ∀ u ∈ units, Unit u) (p : Progress)
    {d : Cursor} (walk : p.cursor.Walks units.flatten d) :
    ⟨d, p.groups⟩ ∈ outcomes (.plus greedy body) p := by
  obtain ⟨u, units, rfl⟩ := List.exists_cons_of_ne_nil filled
  obtain ⟨unit, others⟩ := List.forall_mem_cons.mp all
  rw [List.flatten_cons] at walk
  obtain ⟨e, first, onward⟩ := walk.of_append
  refine (mem_outcomes_plus ..).mpr ⟨⟨e, p.groups⟩, spelled p u e unit first, Or.inl ?_⟩
  exact ⟨first.offset_lt_iff.mpr (some u unit),
    mem_roundOutcomes_units greedy some spelled others _ ⟨e, p.groups⟩ (Nat.le_refl _) onward⟩

end Units

section Preference

theorem pairwise_roundOutcomes_one (set : CharSet) (later : Text) (p : Progress) :
    (roundOutcomes (outcomes (.one set)) true later p).Pairwise
      fun a b => b.cursor.offset < a.cursor.offset := by
  induction later generalizing p with
  | nil => exact List.pairwise_singleton _ _
  | cons ch later ih =>
      simp only [roundOutcomes, if_true, outcomes]
      cases consumed : p.consume? set with
      | none => simp
      | some m =>
          obtain ⟨c, d, _, walk, rfl⟩ := (consume?_eq_some_iff set p m).mp consumed
          have moved := walk.offset_lt_iff.mpr (by simp)
          simp only [Option.toList_some, List.flatMap_cons, List.flatMap_nil, List.append_nil,
            if_pos moved]
          refine List.pairwise_append.mpr ⟨ih _, List.pairwise_singleton _ _, ?_⟩
          intro a member b last
          rw [List.mem_singleton.mp last]
          -- Whatever comes from the further rounds stands behind the character taken here.
          have onward := roundOutcomes_keep (fun p q => p.cursor.offset ≤ q.cursor.offset)
            (fun _ => Nat.le_refl _) (fun _ _ _ => Nat.le_trans) _ true
            (fun p q ended => ?_) later _ a member
          · exact Nat.lt_of_lt_of_le moved onward
          · obtain ⟨_, e, _, step, rfl⟩ := (mem_outcomes_one set p q).mp ended
            exact step.offset_le

theorem head?_flatMap_eq_some (l : List Progress) (f : Progress → List Progress) (q : Progress)
    (first : (l.flatMap f).head? = some q) :
    ∃ before m after, l = before ++ m :: after ∧ (f m).head? = some q ∧ ∀ x ∈ before, f x = [] := by
  rw [List.head?_flatMap, List.findSome?_eq_some_iff] at first
  obtain ⟨before, m, after, parts, found, refused⟩ := first
  exact ⟨before, m, after, parts, found,
    fun x inside => List.head?_eq_none_iff.mp (refused x inside)⟩

/-- What follows the chosen extent of a greedy run was refused after every
longer one. -/
theorem head?_star_one_seq (set : CharSet) (follow : Progress → List Progress) (p q : Progress)
    (first : ((outcomes (.star true (.one set)) p).flatMap follow).head? = some q) :
    ∃ w d, p.cursor.Walks w d ∧ AllIn set w ∧ (follow ⟨d, p.groups⟩).head? = some q ∧
      ∀ v e, p.cursor.Walks v e → AllIn set v → d.offset < e.offset →
        follow ⟨e, p.groups⟩ = [] := by
  obtain ⟨before, m, after, parts, found, refused⟩ := head?_flatMap_eq_some _ _ q first
  have member : m ∈ outcomes (.star true (.one set)) p := by simp [parts]
  obtain ⟨w, d, walk, all, rfl⟩ := (mem_outcomes_star_one true set p m).mp member
  refine ⟨w, d, walk, all, found, fun v e longer others further => refused _ ?_⟩
  -- The longer extent is an outcome too. It cannot be the chosen one or stand after
  -- it, since the outcomes get shorter; so it is among the refused ones.
  have present : (⟨e, p.groups⟩ : Progress) ∈ outcomes (.star true (.one set)) p :=
    (mem_outcomes_star_one true set p _).mpr ⟨v, e, longer, others, rfl⟩
  have ordered := pairwise_roundOutcomes_one set p.cursor.rest p
  change (outcomes (.star true (.one set)) p).Pairwise _ at ordered
  rw [parts] at present ordered
  rcases List.mem_append.mp present with early | late
  · exact early
  · have below := (List.pairwise_append.mp ordered).2.1
    rcases List.mem_cons.mp late with same | later
    · have := congrArg (fun x : Progress => x.cursor.offset) same
      simp only at this
      omega
    · have := (List.pairwise_cons.mp below).1 _ later
      simp only at this
      omega

end Preference

end MarkdownHighlight.Regex
