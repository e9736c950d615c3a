import MarkdownHighlight.Proofs.Claim.Nesting
import MarkdownHighlight.Proofs.Claim.SpanTree

/-!
What the index of claims keeps up. Its claims stand in reading order under their
own spans, any two of them nest, and each names its innermost container. A
query for a place then finds every claim over it, although it only follows one
chain of containers, and a candidate that fits nests with every claim there is.
-/

namespace MarkdownHighlight.ClaimIndex

def all (index : ClaimIndex) : List Claim := index.claims.toList.map (·.2)

def spans (index : ClaimIndex) : List Span := index.all.map (·.token.span)

structure Valid (index : ClaimIndex) : Prop where
  sized : index.claims.Sized
  ordered : index.claims.Ordered
  keyed : ∀ e ∈ index.claims.toList, e.1 = e.2.token.span
  solid : ∀ c ∈ index.all, c.token.Solid
  nested : ∀ a ∈ index.all, ∀ b ∈ index.all, a.token.span ≠ b.token.span →
    a.token.nestsWith b.token = true
  parented : ∀ c ∈ index.all, Span.Innermost index.spans c.token.span c.parent?

theorem empty_valid : empty.Valid where
  sized := trivial
  ordered := List.Pairwise.nil
  keyed := nofun
  solid := nofun
  nested := nofun
  parented := nofun

theorem tokens_eq (index : ClaimIndex) : index.tokens = index.all.map (·.token) := by
  simp [tokens, all]

namespace Valid

variable {index : ClaimIndex}

theorem mem_all_iff (valid : index.Valid) (c : Claim) :
    c ∈ index.all ↔ (c.token.span, c) ∈ index.claims.toList := by
  simp only [all, List.mem_map]
  constructor
  · rintro ⟨e, inside, rfl⟩
    have key := valid.keyed e inside
    rwa [← key]
  · intro inside
    exact ⟨_, inside, rfl⟩

theorem claim_unique (valid : index.Valid) {a b : Claim} (first : a ∈ index.all)
    (second : b ∈ index.all) (same : a.token.span = b.token.span) : a = b := by
  rw [valid.mem_all_iff] at first second
  rw [same] at first
  exact valid.ordered.value_unique first second

theorem laminar (valid : index.Valid) {a b : Claim} (first : a ∈ index.all)
    (second : b ∈ index.all) : a.token.span.Laminar b.token.span := by
  by_cases same : a.token.span = b.token.span
  · exact Or.inr (Or.inr (Or.inl (by simp [same])))
  · exact (Token.laminar_of_nestsWith (valid.solid a first) (valid.solid b second)
      (valid.nested a first b second same)).1

theorem arranged (valid : index.Valid) :
    index.tokens.Pairwise fun t u => t.span.precedes u.span = true ∧ t.nestsWith u = true := by
  rw [tokens, List.pairwise_map]
  apply valid.ordered.imp_of_mem
  intro a b first second before
  rw [valid.keyed a first, valid.keyed b second] at before
  refine ⟨before, valid.nested _ (List.mem_map_of_mem first) _ (List.mem_map_of_mem second)
    fun same => ?_⟩
  rw [same, Span.precedes_irrefl] at before
  cases before

theorem find?_eq_some_iff (valid : index.Valid) (span : Span) (c : Claim) :
    index.claims.find? span = some c ↔ c ∈ index.all ∧ c.token.span = span := by
  rw [SpanTree.find?_eq_some_iff valid.ordered, valid.mem_all_iff]
  constructor
  · intro inside
    have key : span = c.token.span := valid.keyed _ inside
    exact ⟨key ▸ inside, key.symm⟩
  · rintro ⟨inside, rfl⟩
    exact inside

theorem mem_startingIn_iff (valid : index.Valid) (span : Span) (c : Claim) :
    c ∈ index.claims.startingIn span ↔
      c ∈ index.all ∧ span.start ≤ c.token.span.start ∧ c.token.span.start < span.stop := by
  rw [SpanTree.startingIn_eq valid.ordered, valid.mem_all_iff]
  simp only [List.mem_map, List.mem_filter, SpanTree.startsIn, Bool.and_eq_true, decide_eq_true_eq]
  constructor
  · rintro ⟨e, ⟨inside, starts⟩, rfl⟩
    have key := valid.keyed e inside
    rw [← key]
    exact ⟨inside, starts⟩
  · rintro ⟨inside, starts⟩
    exact ⟨_, ⟨inside, starts⟩, rfl⟩

def depth (index : ClaimIndex) (span : Span) : Nat := index.spans.countP (·.encloses span)

theorem countP_lt_of_extra {α : Type} (p q : α → Bool) (l : List α)
    (weaker : ∀ x ∈ l, p x = true → q x = true) (extra : α) (present : extra ∈ l)
    (fails : p extra = false) (holds : q extra = true) : l.countP p < l.countP q := by
  obtain ⟨before, after, rfl⟩ := List.append_of_mem present
  have first := List.countP_mono_left
    fun x (inside : x ∈ before) => weaker x (List.mem_append_left _ inside)
  have second := List.countP_mono_left
    fun x (inside : x ∈ after) => weaker x (List.mem_append_right _ (List.mem_cons_of_mem _ inside))
  simp only [List.countP_append, List.countP_cons, fails, holds, if_true, Bool.false_eq_true,
    if_false]
  omega

theorem depth_lt_of_encloses {outer inner : Span} (present : outer ∈ index.spans)
    (around : outer.encloses inner = true) : depth index outer < depth index inner :=
  countP_lt_of_extra _ _ _ (fun _ _ beyond => Span.encloses_trans beyond around) outer present
    (Span.not_encloses_self outer) around

theorem chain_none (index : ClaimIndex) (bound : Nat) : index.chain bound none = [] := by
  cases bound <;> rfl

/-- A chain of containers misses no claim around the one that it starts from. -/
theorem mem_chain_iff (valid : index.Valid) (bound : Nat) (first : Claim)
    (present : first ∈ index.all) (enough : depth index first.token.span < bound) (c : Claim) :
    c ∈ index.chain bound (some first) ↔
      c ∈ index.all ∧ (c = first ∨ c.token.span.encloses first.token.span = true) := by
  -- The bound pays for one container after the other: each has fewer claims around it
  -- than the one inside it.
  induction bound generalizing first with
  | zero => exact absurd enough (Nat.not_lt_zero _)
  | succ bound ih =>
      rw [chain, List.mem_cons]
      have innermost := valid.parented first present
      cases named : first.parent? with
      | none =>
          rw [named] at innermost
          simp only [Option.bind_none, chain_none, List.not_mem_nil, or_false]
          constructor
          · rintro rfl
            exact ⟨present, Or.inl rfl⟩
          · rintro ⟨inside, same | around⟩
            · exact same
            · have := innermost c.token.span (List.mem_map_of_mem inside)
              rw [around] at this
              cases this
      | some span =>
          rw [named] at innermost
          obtain ⟨held, around, smallest⟩ := innermost
          obtain ⟨parent, inside, rfl⟩ := List.mem_map.mp held
          have found := (valid.find?_eq_some_iff parent.token.span parent).mpr ⟨inside, rfl⟩
          have shallower := depth_lt_of_encloses held around
          rw [Option.bind_some, found, ih parent inside (by omega)]
          constructor
          · rintro (rfl | ⟨other, rfl | beyond⟩)
            · exact ⟨present, Or.inl rfl⟩
            · exact ⟨other, Or.inr around⟩
            · exact ⟨other, Or.inr (Span.encloses_trans beyond around)⟩
          · rintro ⟨other, rfl | enclosing⟩
            · exact Or.inl rfl
            · refine Or.inr ⟨other, ?_⟩
              rcases Span.encloses_or_eq_of_contains
                (smallest _ (List.mem_map_of_mem other) enclosing) with beyond | same
              · exact Or.inr beyond
              · exact Or.inl (valid.claim_unique other inside same)

theorem pairwise_chain (valid : index.Valid) (bound : Nat) (first : Claim)
    (present : first ∈ index.all) (enough : depth index first.token.span < bound) :
    (index.chain bound (some first)).Pairwise
      fun a b => b.token.span.encloses a.token.span = true := by
  induction bound generalizing first with
  | zero => exact List.Pairwise.nil
  | succ bound ih =>
      rw [chain]
      have innermost := valid.parented first present
      cases named : first.parent? with
      | none =>
          rw [Option.bind_none, chain_none]
          exact List.pairwise_singleton _ _
      | some span =>
          rw [named] at innermost
          obtain ⟨held, around, _⟩ := innermost
          obtain ⟨parent, inside, rfl⟩ := List.mem_map.mp held
          have found := (valid.find?_eq_some_iff parent.token.span parent).mpr ⟨inside, rfl⟩
          have shallower := depth_lt_of_encloses held around
          rw [Option.bind_some, found]
          refine List.pairwise_cons.mpr ⟨fun c onward => ?_, ih parent inside (by omega)⟩
          rcases ((valid.mem_chain_iff bound parent inside (by omega) c).mp onward).2 with
            rfl | beyond
          · exact around
          · exact Span.encloses_trans beyond around

theorem depth_lt_size (valid : index.Valid) {c : Claim} (present : c ∈ index.all) :
    depth index c.token.span < index.claims.size := by
  have held : c.token.span ∈ index.spans := List.mem_map_of_mem present
  have bound := countP_lt_of_extra (·.encloses c.token.span) (fun _ => true) index.spans
    (fun _ _ _ => rfl) c.token.span held (Span.not_encloses_self _) rfl
  simpa [depth, spans, all, valid.sized.size_eq] using bound

/-- The chain that a query for a place follows holds every claim over the place. -/
theorem mem_covering_iff (valid : index.Valid) (place : Nat) (c : Claim) :
    c ∈ index.covering place ↔
      c ∈ index.all ∧ c.token.span.start ≤ place ∧ place < c.token.span.stop := by
  have latest := SpanTree.latestAt?_spec valid.ordered place
  rw [covering, List.mem_filter, decide_eq_true_eq]
  cases found : index.claims.latestAt? place with
  | none =>
      rw [found] at latest
      rw [chain_none]
      constructor
      · rintro ⟨inside, _⟩
        cases inside
      · rintro ⟨inside, low, _⟩
        have := latest _ ((valid.mem_all_iff c).mp inside)
        simp only at this
        omega
  | some last =>
      rw [found] at latest
      obtain ⟨key, entry, reached, latest⟩ := latest
      have own : key = last.token.span := valid.keyed _ entry
      subst own
      have present := (valid.mem_all_iff last).mpr entry
      rw [valid.mem_chain_iff _ last present (valid.depth_lt_size present)]
      constructor
      · rintro ⟨⟨inside, rfl | around⟩, high⟩
        · exact ⟨inside, reached, high⟩
        · have := (Span.encloses_iff ..).mp around
          exact ⟨inside, by omega, high⟩
      · rintro ⟨inside, low, high⟩
        refine ⟨⟨inside, ?_⟩, high⟩
        rcases latest _ ((valid.mem_all_iff c).mp inside) low with same | earlier
        · exact Or.inl (valid.claim_unique inside present same)
        · right
          have nonempty := (valid.solid last present).nonempty
          have order := (Span.precedes_iff ..).mp earlier
          have crossing := valid.laminar inside present
          simp only [Span.Laminar, Span.contains_iff] at crossing
          simp only at order
          rw [Span.encloses_iff]
          omega

theorem pairwise_covering (valid : index.Valid) (place : Nat) :
    (index.covering place).Pairwise
      fun a b => b.token.span.encloses a.token.span = true := by
  rw [covering]
  apply List.Pairwise.filter
  have latest := SpanTree.latestAt?_spec valid.ordered place
  cases found : index.claims.latestAt? place with
  | none =>
      rw [chain_none]
      exact List.Pairwise.nil
  | some last =>
      rw [found] at latest
      obtain ⟨key, entry, _⟩ := latest
      have own : key = last.token.span := valid.keyed _ entry
      subst own
      have present := (valid.mem_all_iff last).mpr entry
      exact valid.pairwise_chain _ last present (valid.depth_lt_size present)

/-- A claim that no query of `fits` visits is disjoint from the candidate. -/
theorem fits_iff (valid : index.Valid) (candidate : Token) :
    index.fits candidate = true ↔
      ∀ c ∈ index.all, candidate.nestsWith c.token = true := by
  rw [fits, List.all_eq_true]
  simp only [List.mem_append, valid.mem_covering_iff, valid.mem_startingIn_iff]
  constructor
  · intro visited c inside
    by_cases apart : candidate.span.disjoint c.token.span = true
    · exact (Token.nestsWith_iff ..).mpr (Or.inl apart)
    · rw [Span.disjoint_iff] at apart
      apply visited c
      by_cases early : c.token.span.start ≤ candidate.span.start
      · exact Or.inl ⟨inside, early, by omega⟩
      · exact Or.inr ⟨inside, by omega, by omega⟩
  · rintro nests c (⟨inside, _⟩ | ⟨inside, _⟩)
    · exact nests c inside
    · exact nests c inside

end Valid

def parentOf? (index : ClaimIndex) (span : Span) : Option Span :=
  ((index.covering span.start).find? (span.stop ≤ ·.token.span.stop)).map (·.token.span)

def adopted (index : ClaimIndex) (span : Span) : List Claim :=
  (index.claims.startingIn span).filter fun c =>
    c.token.span.stop ≤ span.stop && c.parent? == index.parentOf? span

theorem insert_eq (index : ClaimIndex) (t : Token) :
    index.insert t = ⟨((index.adopted t.span).foldl (fun tree claim =>
      tree.modify claim.token.span ({ · with parent? := some t.span })) index.claims).insert t.span
        ⟨t, index.parentOf? t.span⟩⟩ := rfl

def rehome (span : Span) (moves : Bool) (c : Claim) : Claim :=
  if moves then { c with parent? := some span } else c

theorem foldl_modify (span : Span) (moved : List Claim) (tree : SpanTree Claim)
    (sized : tree.Sized) (ordered : tree.Ordered) :
    let tree' := moved.foldl (fun tree claim =>
      tree.modify claim.token.span ({ · with parent? := some span })) tree
    tree'.Sized ∧ tree'.Ordered ∧ tree'.toList = tree.toList.map fun e =>
      (e.1, rehome span (moved.any (·.token.span == e.1)) e.2) := by
  induction moved generalizing tree with
  | nil => exact ⟨sized, ordered, by simp [rehome]⟩
  | cons c later ih =>
      obtain ⟨sized', ordered', entries⟩ :=
        ih (tree.modify c.token.span ({ · with parent? := some span })) (sized.modify ..)
          (ordered.modify ..)
      refine ⟨sized', ordered', ?_⟩
      rw [List.foldl_cons, entries, SpanTree.toList_modify ordered, List.map_map]
      apply List.map_congr_left
      intro e _
      by_cases here : e.1 = c.token.span
      · simp [SpanTree.changeAt, rehome, here]
      · have other : (c.token.span == e.1) = false := beq_eq_false_iff_ne.mpr (Ne.symm here)
        simp [SpanTree.changeAt, here, other]

namespace Valid

variable {index : ClaimIndex} {t : Token}

theorem laminar_new (valid : index.Valid) (solid : t.Solid)
    (nests : ∀ c ∈ index.all, t.nestsWith c.token = true) :
    ∀ s ∈ index.spans, s.Laminar t.span ∧ s ≠ t.span := by
  intro s held
  obtain ⟨c, present, rfl⟩ := List.mem_map.mp held
  obtain ⟨laminar, differ⟩ :=
    Token.laminar_of_nestsWith solid (valid.solid c present) (nests c present)
  exact ⟨laminar.symm, Ne.symm differ⟩

theorem parentOf?_innermost (valid : index.Valid) (solid : t.Solid)
    (nests : ∀ c ∈ index.all, t.nestsWith c.token = true) :
    Span.Innermost index.spans t.span (index.parentOf? t.span) := by
  have nonempty := solid.nonempty
  have covered : ∀ c ∈ index.all, c.token.span.encloses t.span = true →
      c ∈ index.covering t.span.start ∧ t.span.stop ≤ c.token.span.stop := by
    intro c present around
    rw [Span.encloses_iff] at around
    exact ⟨(valid.mem_covering_iff ..).mpr ⟨present, by omega, by omega⟩, by omega⟩
  rw [parentOf?]
  cases found : (index.covering t.span.start).find? (t.span.stop ≤ ·.token.span.stop) with
  | none =>
      intro s held
      obtain ⟨c, present, rfl⟩ := List.mem_map.mp held
      rw [Bool.eq_false_iff]
      intro around
      obtain ⟨covering, reaches⟩ := covered c present around
      exact List.find?_eq_none.mp found c covering (by simpa using reaches)
  | some parent =>
      obtain ⟨reaches, before, after, split, short⟩ := List.find?_eq_some_iff_append.mp found
      have covering : parent ∈ index.covering t.span.start := by simp [split]
      obtain ⟨present, low, high⟩ := (valid.mem_covering_iff ..).mp covering
      rw [decide_eq_true_eq] at reaches
      refine ⟨List.mem_map_of_mem present, ?_, fun s held around => ?_⟩
      · have within := (Span.contains_iff _ t.span).mpr ⟨low, reaches⟩
        rcases Span.encloses_or_eq_of_contains within with around | same
        · exact around
        · exact absurd same (valid.laminar_new solid nests _ (List.mem_map_of_mem present)).2
      · obtain ⟨c, there, rfl⟩ := List.mem_map.mp held
        obtain ⟨within, reaches'⟩ := covered c there around
        -- The covering claims grow along the list, so the first one that reaches far enough
        -- is the smallest.
        have growing := valid.pairwise_covering t.span.start
        rw [split] at within growing
        rcases List.mem_append.mp within with first | other
        · have := short c first
          simp [reaches'] at this
        · rcases List.mem_cons.mp other with rfl | last
          · simp
          · have order : c.token.span.encloses parent.token.span = true :=
              (List.pairwise_cons.mp (List.pairwise_append.mp growing).2.1).1 c last
            change c.token.span.contains parent.token.span = true
            rw [Span.encloses_iff] at order
            rw [Span.contains_iff]
            omega

theorem mem_adopted_iff (valid : index.Valid) (solid : t.Solid)
    (nests : ∀ c ∈ index.all, t.nestsWith c.token = true) (c : Claim) :
    c ∈ index.adopted t.span ↔ c ∈ index.all ∧ t.span.encloses c.token.span = true ∧
      c.parent? = index.parentOf? t.span := by
  rw [adopted, List.mem_filter, valid.mem_startingIn_iff, Bool.and_eq_true, decide_eq_true_eq,
    beq_iff_eq]
  constructor
  · rintro ⟨⟨present, low, _⟩, reaches, same⟩
    refine ⟨present, ?_, same⟩
    rcases Span.encloses_or_eq_of_contains ((Span.contains_iff t.span _).mpr ⟨low, reaches⟩) with
      around | equal
    · exact around
    · exact absurd equal.symm (valid.laminar_new solid nests _ (List.mem_map_of_mem present)).2
  · rintro ⟨present, around, same⟩
    have nonempty := (valid.solid c present).nonempty
    rw [Span.encloses_iff] at around
    exact ⟨⟨present, by omega, by omega⟩, by omega, same⟩

def settled (index : ClaimIndex) (span : Span) (c : Claim) : Claim :=
  rehome span ((index.adopted span).any (·.token.span == c.token.span)) c

@[simp] theorem settled_token (span : Span) (c : Claim) :
    (settled index span c).token = c.token := by
  rw [settled, rehome]
  split <;> rfl

theorem insert_entries (valid : index.Valid) (solid : t.Solid)
    (nests : ∀ c ∈ index.all, t.nestsWith c.token = true) :
    (index.insert t).claims.Sized ∧ (index.insert t).claims.Ordered ∧
      ∃ before after, before ++ after =
        index.claims.toList.map (fun e => (e.1, settled index t.span e.2)) ∧
      (index.insert t).claims.toList =
        before ++ (t.span, ⟨t, index.parentOf? t.span⟩) :: after := by
  obtain ⟨sized, ordered, entries⟩ :=
    foldl_modify t.span (index.adopted t.span) index.claims valid.sized valid.ordered
  have moved : (index.claims.toList.map fun e => (e.1, rehome t.span
      ((index.adopted t.span).any (·.token.span == e.1)) e.2)) =
      index.claims.toList.map fun e => (e.1, settled index t.span e.2) := by
    apply List.map_congr_left
    intro e inside
    rw [settled, ← valid.keyed e inside]
  rw [moved] at entries
  have fresh : ∀ e ∈ ((index.adopted t.span).foldl (fun tree claim =>
      tree.modify claim.token.span ({ · with parent? := some t.span })) index.claims).toList,
      e.1 ≠ t.span := by
    intro e inside
    rw [entries] at inside
    obtain ⟨old, there, rfl⟩ := List.mem_map.mp inside
    refine (valid.laminar_new solid nests old.1 ?_).2
    rw [valid.keyed old there]
    exact List.mem_map_of_mem (List.mem_map_of_mem there)
  obtain ⟨before, after, split, new, _⟩ := SpanTree.toList_insert ordered t.span
    ⟨t, index.parentOf? t.span⟩ fresh
  rw [insert_eq]
  exact ⟨sized.insert .., ordered.insert _ _ fresh, before, after, split.symm.trans entries, new⟩

theorem mem_all_insert (valid : index.Valid) (solid : t.Solid)
    (nests : ∀ c ∈ index.all, t.nestsWith c.token = true) (c : Claim) :
    c ∈ (index.insert t).all ↔ c = ⟨t, index.parentOf? t.span⟩ ∨
      ∃ old ∈ index.all, c = settled index t.span old := by
  obtain ⟨_, _, before, after, split, new⟩ := valid.insert_entries solid nests
  have olds : before.map (·.2) ++ after.map (·.2) = index.all.map (settled index t.span) := by
    rw [← List.map_append, split, all, List.map_map, List.map_map]
    rfl
  have member : (∃ old ∈ index.all, c = settled index t.span old) ↔
      c ∈ before.map (·.2) ++ after.map (·.2) := by
    rw [olds, List.mem_map]
    simp only [eq_comm]
  rw [member, all, new, List.map_append, List.map_cons]
  simp only [List.mem_append, List.mem_cons]
  exact or_left_comm

theorem mem_spans_insert (valid : index.Valid) (solid : t.Solid)
    (nests : ∀ c ∈ index.all, t.nestsWith c.token = true) (s : Span) :
    s ∈ (index.insert t).spans ↔ s = t.span ∨ s ∈ index.spans := by
  simp only [spans, List.mem_map, valid.mem_all_insert solid nests]
  constructor
  · rintro ⟨c, rfl | ⟨old, present, rfl⟩, rfl⟩
    · exact Or.inl rfl
    · exact Or.inr ⟨old, present, by rw [settled_token]⟩
  · rintro (rfl | ⟨old, present, rfl⟩)
    · exact ⟨_, Or.inl rfl, rfl⟩
    · exact ⟨_, Or.inr ⟨old, present, rfl⟩, by rw [settled_token]⟩

/-- An old claim names its innermost container also among the claims with the
new one. -/
theorem settled_innermost (valid : index.Valid) (solid : t.Solid)
    (nests : ∀ c ∈ index.all, t.nestsWith c.token = true) (c : Claim) (present : c ∈ index.all) :
    Span.Innermost (index.insert t).spans c.token.span (settled index t.span c).parent? := by
  have innermost := valid.parented c present
  have added := valid.mem_spans_insert solid nests
  have home := valid.parentOf?_innermost solid nests
  by_cases moves : c ∈ index.adopted t.span
  · obtain ⟨_, around, same⟩ := (valid.mem_adopted_iff solid nests c).mp moves
    have hit : (index.adopted t.span).any (·.token.span == c.token.span) = true :=
      List.any_eq_true.mpr ⟨c, moves, by simp⟩
    rw [same] at innermost
    simp only [settled, rehome, hit, if_true]
    exact innermost.add_between home added around
  · have miss : (index.adopted t.span).any (·.token.span == c.token.span) = false := by
      rw [Bool.eq_false_iff]
      intro hit
      obtain ⟨other, inside, same⟩ := List.any_eq_true.mp hit
      have old := ((valid.mem_adopted_iff solid nests other).mp inside).1
      rw [valid.claim_unique old present (beq_iff_eq.mp same)] at inside
      exact moves inside
    simp only [settled, rehome, miss, Bool.false_eq_true, if_false]
    by_cases around : t.span.encloses c.token.span = true
    -- A claim inside the new one that does not move has a container of its own in there.
    · have differs : c.parent? ≠ index.parentOf? t.span := fun same =>
        moves ((valid.mem_adopted_iff solid nests c).mpr ⟨present, around, same⟩)
      exact innermost.add_around differs home added around (valid.laminar_new solid nests)
        (valid.solid c present).nonempty
    · exact innermost.add_elsewhere added (by simpa using around)

/-- After the insertion of a token that fits, the index is as before with the
token in its place in reading order. -/
theorem insert (valid : index.Valid) (solid : t.Solid)
    (nests : ∀ c ∈ index.all, t.nestsWith c.token = true) :
    (index.insert t).Valid ∧ ∃ before after, index.tokens = before ++ after ∧
      (index.insert t).tokens = before ++ t :: after := by
  obtain ⟨sized, ordered, before, after, split, new⟩ := valid.insert_entries solid nests
  have members := valid.mem_all_insert solid nests
  have keyed : ∀ e ∈ (index.insert t).claims.toList, e.1 = e.2.token.span := by
    intro e inside
    rw [new] at inside
    have olds : e ∈ before ++ after → e.1 = e.2.token.span := by
      intro old
      rw [split] at old
      obtain ⟨e', there, rfl⟩ := List.mem_map.mp old
      simp only [settled_token]
      exact valid.keyed e' there
    rcases List.mem_append.mp inside with first | other
    · exact olds (List.mem_append_left _ first)
    · rcases List.mem_cons.mp other with rfl | last
      · rfl
      · exact olds (List.mem_append_right _ last)
  have allSolid : ∀ c ∈ (index.insert t).all, c.token.Solid := by
    intro c present
    rcases (members c).mp present with rfl | ⟨old, there, rfl⟩
    · exact solid
    · rw [settled_token]
      exact valid.solid old there
  have nested : ∀ a ∈ (index.insert t).all, ∀ b ∈ (index.insert t).all,
      a.token.span ≠ b.token.span → a.token.nestsWith b.token = true := by
    intro a first b second differ
    -- The candidate fits with every old claim, and the old ones fit with each other.
    rcases (members a).mp first with rfl | ⟨a, there, rfl⟩ <;>
      rcases (members b).mp second with rfl | ⟨b, elsewhere, rfl⟩
    · exact absurd rfl differ
    · rw [settled_token]
      exact nests b elsewhere
    · rw [settled_token, Token.nestsWith_comm]
      exact nests a there
    · simp only [settled_token] at differ ⊢
      exact valid.nested a there b elsewhere differ
  have parented : ∀ c ∈ (index.insert t).all,
      Span.Innermost (index.insert t).spans c.token.span c.parent? := by
    intro c present
    rcases (members c).mp present with rfl | ⟨old, there, rfl⟩
    · exact (valid.parentOf?_innermost solid nests).add_elsewhere
        (valid.mem_spans_insert solid nests) (Span.not_encloses_self _)
    · rw [settled_token]
      exact valid.settled_innermost solid nests old there
  refine ⟨⟨sized, ordered, keyed, allSolid, nested, parented⟩, before.map (·.2.token),
    after.map (·.2.token), ?_, ?_⟩
  · rw [← List.map_append, split, List.map_map, tokens]
    apply List.map_congr_left
    intro e _
    simp
  · rw [tokens, new, List.map_append, List.map_cons]

end Valid

end MarkdownHighlight.ClaimIndex
