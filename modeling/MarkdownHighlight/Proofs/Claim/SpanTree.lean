import MarkdownHighlight.Claim.SpanTree

/-!
The search tree is its list of entries. When the entries stand in reading order
every operation is told from that list alone: what an insertion adds, what a
lookup finds, what the last entry at a place is and which entries start in a
span. The balance of the tree takes no part in any of it.
-/

namespace MarkdownHighlight

namespace Span

theorem precedes_iff (a b : Span) :
    a.precedes b = true ↔ a.start < b.start ∨ (a.start = b.start ∧ b.stop < a.stop) := by
  simp [precedes]

theorem precedes_trans {a b c : Span} (first : a.precedes b = true) (second : b.precedes c = true) :
    a.precedes c = true := by
  rw [precedes_iff] at *
  omega

theorem precedes_irrefl (a : Span) : a.precedes a = false := by
  simp [precedes]

theorem precedes_asymm {a b : Span} (first : a.precedes b = true) : b.precedes a = false := by
  rw [Bool.eq_false_iff]
  intro second
  rw [precedes_iff] at first second
  omega

theorem eq_of_not_precedes {a b : Span} (first : ¬ a.precedes b = true)
    (second : ¬ b.precedes a = true) : a = b := by
  rw [precedes_iff] at first second
  obtain ⟨aStart, aStop⟩ := a
  obtain ⟨bStart, bStop⟩ := b
  simp only [Span.mk.injEq]
  simp only at first second
  omega

end Span

namespace SpanTree

variable {Value : Type}

def InOrder (entries : List (Span × Value)) : Prop :=
  entries.Pairwise fun a b => a.1.precedes b.1 = true

def Ordered (tree : SpanTree Value) : Prop := InOrder tree.toList

def Sized : SpanTree Value → Prop
  | .leaf => True
  | .node size left _ _ right => size = left.size + 1 + right.size ∧ left.Sized ∧ right.Sized

theorem Sized.size_eq {tree : SpanTree Value} (sized : tree.Sized) :
    tree.size = tree.toList.length := by
  induction tree with
  | leaf => rfl
  | node size left key value right ihLeft ihRight =>
      obtain ⟨same, atLeft, atRight⟩ := sized
      simp only [SpanTree.size, toList, List.length_append, List.length_cons]
      rw [same, ihLeft atLeft, ihRight atRight]
      omega

theorem ordered_node (size : Nat) (left right : SpanTree Value) (key : Span) (value : Value) :
    (node size left key value right).Ordered ↔
      left.Ordered ∧ right.Ordered ∧ (∀ e ∈ left.toList, e.1.precedes key = true) ∧
        ∀ e ∈ right.toList, key.precedes e.1 = true := by
  simp only [Ordered, InOrder, toList, List.pairwise_append, List.pairwise_cons, List.mem_cons]
  constructor
  · rintro ⟨atLeft, ⟨later, atRight⟩, across⟩
    exact ⟨atLeft, atRight, fun e inside => across e inside _ (Or.inl rfl), later⟩
  · rintro ⟨atLeft, atRight, earlier, later⟩
    refine ⟨atLeft, ⟨later, atRight⟩, fun a inside b other => ?_⟩
    rcases other with rfl | other
    · exact earlier a inside
    · exact Span.precedes_trans (earlier a inside) (later b other)

section Size

variable {left right : SpanTree Value} {key : Span} {value : Value}

theorem Sized.join (atLeft : left.Sized) (atRight : right.Sized) :
    (SpanTree.join left key value right).Sized := ⟨rfl, atLeft, atRight⟩

theorem Sized.rotateLeft (atLeft : left.Sized) (atRight : right.Sized) :
    (SpanTree.rotateLeft left key value right).Sized := by
  unfold SpanTree.rotateLeft
  split
  · exact atLeft.join atRight
  · obtain ⟨_, atMiddle, atFar⟩ := atRight
    split
    · split
      · exact (atLeft.join atMiddle).join atFar
      · obtain ⟨_, atInner, atOuter⟩ := atMiddle
        exact (atLeft.join atInner).join (atOuter.join atFar)
    · exact (Sized.join atLeft atMiddle).join atFar

theorem Sized.rotateRight (atLeft : left.Sized) (atRight : right.Sized) :
    (SpanTree.rotateRight left key value right).Sized := by
  unfold SpanTree.rotateRight
  split
  · exact Sized.join trivial atRight
  · obtain ⟨_, atOuter, atMiddle⟩ := atLeft
    split
    · split
      · exact atOuter.join (atMiddle.join atRight)
      · obtain ⟨_, atInner, atFar⟩ := atMiddle
        exact (atOuter.join atInner).join (atFar.join atRight)
    · exact atOuter.join (Sized.join trivial atRight)

theorem Sized.balance (atLeft : left.Sized) (atRight : right.Sized) :
    (SpanTree.balance left key value right).Sized := by
  unfold SpanTree.balance
  split
  · exact atLeft.join atRight
  · split
    · exact atLeft.rotateLeft atRight
    · split
      · exact atLeft.rotateRight atRight
      · exact atLeft.join atRight

end Size

theorem Sized.insert {tree : SpanTree Value} (sized : tree.Sized) (key : Span) (value : Value) :
    (tree.insert key value).Sized := by
  induction tree with
  | leaf => exact Sized.join trivial trivial
  | node size left key' value' right ihLeft ihRight =>
      obtain ⟨same, atLeft, atRight⟩ := sized
      rw [SpanTree.insert]
      split
      · exact (ihLeft atLeft).balance atRight
      · split
        · exact atLeft.balance (ihRight atRight)
        · exact ⟨same, atLeft, atRight⟩

theorem size_modify (tree : SpanTree Value) (key : Span) (change : Value → Value) :
    (tree.modify key change).size = tree.size := by
  cases tree with
  | leaf => rfl
  | node size left key' value' right =>
      rw [modify]
      split
      · rfl
      · split <;> rfl

theorem Sized.modify {tree : SpanTree Value} (sized : tree.Sized) (key : Span)
    (change : Value → Value) : (tree.modify key change).Sized := by
  induction tree with
  | leaf => trivial
  | node size left key' value' right ihLeft ihRight =>
      obtain ⟨same, atLeft, atRight⟩ := sized
      rw [SpanTree.modify]
      split
      · exact ⟨by rw [size_modify, same], ihLeft atLeft, atRight⟩
      · split
        · exact ⟨by rw [size_modify, same], atLeft, ihRight atRight⟩
        · exact ⟨same, atLeft, atRight⟩

theorem toList_insert {tree : SpanTree Value} (ordered : tree.Ordered) (key : Span) (value : Value)
    (fresh : ∀ e ∈ tree.toList, e.1 ≠ key) :
    ∃ before after, tree.toList = before ++ after ∧
      (tree.insert key value).toList = before ++ (key, value) :: after ∧
      (∀ e ∈ before, e.1.precedes key = true) ∧ ∀ e ∈ after, key.precedes e.1 = true := by
  induction tree with
  | leaf => exact ⟨[], [], rfl, rfl, nofun, nofun⟩
  | node size left key' value' right ihLeft ihRight =>
      obtain ⟨atLeft, atRight, earlier, later⟩ := (ordered_node ..).mp ordered
      simp only [toList, List.mem_append, List.mem_cons] at fresh
      rw [insert]
      split
      · rename_i first
        obtain ⟨before, after, old, new, low, high⟩ :=
          ihLeft atLeft fun e inside => fresh e (Or.inl inside)
        refine ⟨before, after ++ (key', value') :: right.toList, by simp [toList, old],
          by simp [toList_balance, new], low, fun e inside => ?_⟩
        rcases List.mem_append.mp inside with near | far
        · exact high e near
        · rcases List.mem_cons.mp far with rfl | far
          · exact first
          · exact Span.precedes_trans first (later e far)
      · split
        · rename_i second
          obtain ⟨before, after, old, new, low, high⟩ :=
            ihRight atRight fun e inside => fresh e (Or.inr (Or.inr inside))
          refine ⟨left.toList ++ (key', value') :: before, after, by simp [toList, old],
            by simp [toList_balance, new], fun e inside => ?_, high⟩
          rcases List.mem_append.mp inside with far | near
          · exact Span.precedes_trans (earlier e far) second
          · rcases List.mem_cons.mp near with rfl | near
            · exact second
            · exact low e near
        · rename_i first second
          exact absurd (Span.eq_of_not_precedes second first) (fresh _ (Or.inr (Or.inl rfl)))

theorem Ordered.insert {tree : SpanTree Value} (ordered : tree.Ordered) (key : Span)
    (value : Value) (fresh : ∀ e ∈ tree.toList, e.1 ≠ key) : (tree.insert key value).Ordered := by
  obtain ⟨before, after, old, new, low, high⟩ := toList_insert ordered key value fresh
  rw [Ordered, old, InOrder, List.pairwise_append] at ordered
  obtain ⟨first, second, across⟩ := ordered
  rw [Ordered, new, InOrder, List.pairwise_append, List.pairwise_cons]
  refine ⟨first, ⟨high, second⟩, fun a inside b other => ?_⟩
  rcases List.mem_cons.mp other with rfl | other
  · exact low a inside
  · exact across a inside b other

theorem InOrder.value_unique {entries : List (Span × Value)} (ordered : InOrder entries)
    {key : Span} {v w : Value} (first : (key, v) ∈ entries) (second : (key, w) ∈ entries) :
    v = w := by
  induction entries with
  | nil => cases first
  | cons e later ih =>
      obtain ⟨ahead, rest⟩ := List.pairwise_cons.mp ordered
      rcases List.mem_cons.mp first with here | there
      · rcases List.mem_cons.mp second with same | elsewhere
        · exact (Prod.mk.inj (here.trans same.symm)).2
        · have := ahead _ elsewhere
          rw [← here, Span.precedes_irrefl] at this
          cases this
      · rcases List.mem_cons.mp second with same | elsewhere
        · have := ahead _ there
          rw [← same, Span.precedes_irrefl] at this
          cases this
        · exact ih rest there elsewhere

theorem find?_eq_some_iff {tree : SpanTree Value} (ordered : tree.Ordered) (key : Span)
    (value : Value) : tree.find? key = some value ↔ (key, value) ∈ tree.toList := by
  induction tree with
  | leaf => simp [find?, toList]
  | node size left key' value' right ihLeft ihRight =>
      obtain ⟨atLeft, atRight, earlier, later⟩ := (ordered_node ..).mp ordered
      rw [find?, toList, List.mem_append, List.mem_cons]
      split
      · rename_i first
        rw [ihLeft atLeft]
        refine ⟨Or.inl, ?_⟩
        rintro (inside | same | inside)
        · exact inside
        · rw [(Prod.mk.inj same).1, Span.precedes_irrefl] at first
          cases first
        · have := Span.precedes_asymm (later _ inside)
          rw [first] at this
          cases this
      · rename_i first
        split
        · rename_i second
          rw [ihRight atRight]
          refine ⟨fun inside => Or.inr (Or.inr inside), ?_⟩
          rintro (inside | same | inside)
          · exact absurd (earlier _ inside) first
          · rw [(Prod.mk.inj same).1, Span.precedes_irrefl] at second
            cases second
          · exact inside
        · rename_i second
          have same := Span.eq_of_not_precedes first second
          subst same
          constructor
          · intro found
            exact Or.inr (Or.inl (by rw [Option.some.inj found]))
          · rintro (inside | same | inside)
            · exact absurd (earlier _ inside) first
            · rw [(Prod.mk.inj same).2]
            · exact absurd (later _ inside) second

def changeAt (key : Span) (change : Value → Value) (e : Span × Value) : Span × Value :=
  if e.1 = key then (e.1, change e.2) else e

theorem map_changeAt_eq_self (key : Span) (change : Value → Value)
    (entries : List (Span × Value)) (others : ∀ e ∈ entries, e.1 ≠ key) :
    entries.map (changeAt key change) = entries := by
  induction entries with
  | nil => rfl
  | cons e later ih =>
      obtain ⟨here, there⟩ := List.forall_mem_cons.mp others
      rw [List.map_cons, ih there, changeAt, if_neg here]

theorem toList_modify {tree : SpanTree Value} (ordered : tree.Ordered) (key : Span)
    (change : Value → Value) :
    (tree.modify key change).toList = tree.toList.map (changeAt key change) := by
  induction tree with
  | leaf => rfl
  | node size left key' value' right ihLeft ihRight =>
      obtain ⟨atLeft, atRight, earlier, later⟩ := (ordered_node ..).mp ordered
      rw [modify]
      split
      · rename_i first
        have other : key' ≠ key := by
          rintro rfl
          rw [Span.precedes_irrefl] at first
          cases first
        have untouched := map_changeAt_eq_self key change right.toList (by
          rintro e inside rfl
          have := Span.precedes_asymm (later e inside)
          rw [first] at this
          cases this)
        simp [toList, ihLeft atLeft, untouched, changeAt, other]
      · rename_i first
        split
        · rename_i second
          have other : key' ≠ key := by
            rintro rfl
            rw [Span.precedes_irrefl] at second
            cases second
          have untouched := map_changeAt_eq_self key change left.toList
            fun e inside same => first (same ▸ earlier e inside)
          simp [toList, ihRight atRight, untouched, changeAt, other]
        · rename_i second
          have same := Span.eq_of_not_precedes first second
          subst same
          have before := map_changeAt_eq_self key change left.toList
            fun e inside same => first (same ▸ earlier e inside)
          have after := map_changeAt_eq_self key change right.toList
            fun e inside same => second (same ▸ later e inside)
          simp [toList, before, after, changeAt]

theorem Ordered.modify {tree : SpanTree Value} (ordered : tree.Ordered) (key : Span)
    (change : Value → Value) : (tree.modify key change).Ordered := by
  rw [Ordered, toList_modify ordered, InOrder, List.pairwise_map]
  refine List.Pairwise.imp (fun {a b} before => ?_) ordered
  have keys : ∀ e : Span × Value, (changeAt key change e).1 = e.1 := by
    intro e
    rw [changeAt]
    split <;> rfl
  rw [keys, keys]
  exact before

/-- The value of the last entry, in reading order, that starts at or before a place. -/
theorem latestAt?_spec {tree : SpanTree Value} (ordered : tree.Ordered) (place : Nat) :
    match tree.latestAt? place with
    | none => ∀ e ∈ tree.toList, place < e.1.start
    | some value => ∃ key, (key, value) ∈ tree.toList ∧ key.start ≤ place ∧
        ∀ e ∈ tree.toList, e.1.start ≤ place → e.1 = key ∨ e.1.precedes key = true := by
  induction tree with
  | leaf => exact nofun
  | node size left key value right ihLeft ihRight =>
      obtain ⟨atLeft, atRight, earlier, later⟩ := (ordered_node ..).mp ordered
      -- When the key itself starts late so does all to its right; else whatever the right
      -- side finds is later than the key.
      by_cases reached : key.start ≤ place
      · have onRight := ihRight atRight
        simp only [latestAt?, if_pos reached]
        cases found : right.latestAt? place with
        | none =>
            simp only [found] at onRight
            refine ⟨key, by simp [toList], reached, fun e inside low => ?_⟩
            simp only [toList, List.mem_append, List.mem_cons] at inside
            rcases inside with before | rfl | after
            · exact Or.inr (earlier e before)
            · exact Or.inl rfl
            · exact absurd (onRight e after) (Nat.not_lt.mpr low)
        | some last =>
            simp only [found] at onRight
            obtain ⟨key', inside', reached', latest⟩ := onRight
            refine ⟨key', by simp [toList, inside'], reached', fun e inside low => ?_⟩
            have next := later _ inside'
            simp only [toList, List.mem_append, List.mem_cons] at inside
            rcases inside with before | rfl | after
            · exact Or.inr (Span.precedes_trans (earlier e before) next)
            · exact Or.inr next
            · exact latest e after low
      · have onLeft := ihLeft atLeft
        have beyond : ∀ e ∈ right.toList, place < e.1.start := by
          intro e after
          have := (Span.precedes_iff ..).mp (later e after)
          omega
        simp only [latestAt?, if_neg reached]
        cases found : left.latestAt? place with
        | none =>
            simp only [found] at onLeft
            intro e inside
            simp only [toList, List.mem_append, List.mem_cons] at inside
            rcases inside with before | rfl | after
            · exact onLeft e before
            · exact Nat.lt_of_not_le reached
            · exact beyond e after
        | some last =>
            simp only [found] at onLeft
            obtain ⟨key', inside', reached', latest⟩ := onLeft
            refine ⟨key', by simp [toList, inside'], reached', fun e inside low => ?_⟩
            simp only [toList, List.mem_append, List.mem_cons] at inside
            rcases inside with before | rfl | after
            · exact latest e before low
            · exact absurd low reached
            · exact absurd (beyond e after) (Nat.not_lt.mpr low)

def startsIn (span : Span) (e : Span × Value) : Bool :=
  span.start ≤ e.1.start && e.1.start < span.stop

theorem startingIn_eq {tree : SpanTree Value} (ordered : tree.Ordered) (span : Span) :
    tree.startingIn span = (tree.toList.filter (startsIn span)).map (·.2) := by
  induction tree with
  | leaf => rfl
  | node size left key value right ihLeft ihRight =>
      obtain ⟨atLeft, atRight, earlier, later⟩ := (ordered_node ..).mp ordered
      rw [startingIn, toList, List.filter_append, List.map_append, List.filter_cons]
      by_cases early : key.start < span.start
      · have none : left.toList.filter (startsIn span) = [] := by
          apply List.filter_eq_nil_iff.mpr
          intro e before
          have := (Span.precedes_iff ..).mp (earlier e before)
          simp only [startsIn, Bool.and_eq_true, decide_eq_true_eq]
          omega
        have miss : startsIn span (key, value) = false := by
          simp only [startsIn, Bool.and_eq_false_iff, decide_eq_false_iff_not]
          omega
        simp [early, none, miss, ihRight atRight]
      · by_cases late : span.stop ≤ key.start
        · have none : right.toList.filter (startsIn span) = [] := by
            apply List.filter_eq_nil_iff.mpr
            intro e after
            have := (Span.precedes_iff ..).mp (later e after)
            simp only [startsIn, Bool.and_eq_true, decide_eq_true_eq]
            omega
          have miss : startsIn span (key, value) = false := by
            simp only [startsIn, Bool.and_eq_false_iff, decide_eq_false_iff_not]
            omega
          simp [early, late, none, miss, ihLeft atLeft]
        · have hit : startsIn span (key, value) = true := by
            simp only [startsIn, Bool.and_eq_true, decide_eq_true_eq]
            omega
          simp [early, late, hit, ihLeft atLeft, ihRight atRight]

end SpanTree

end MarkdownHighlight
