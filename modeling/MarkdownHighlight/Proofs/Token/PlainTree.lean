import MarkdownHighlight.Proofs.Text.Shift
import MarkdownHighlight.Proofs.Token.Forest

/-!
The plain way to a tree: each accepted token goes under the smallest one around
it, in the order of the text, and what is left of the text around the tokens goes
between them. Taking the tokens from the last to the first, with
the trees inside a token always at the front, leads to the same tree; and with
the plain way to claim text this is the whole of tokenizing.
-/

namespace MarkdownHighlight

def Span.width (s : Span) : Nat := s.stop - s.start

namespace Plain

/-- `outer` is the smallest accepted token around `inner`. -/
def isParent (accepted : List Token) (outer inner : Token) : Bool :=
  outer.span.encloses inner.span && accepted.all fun other =>
    !other.span.encloses inner.span || outer.span.width ≤ other.span.width

def isRoot (accepted : List Token) (t : Token) : Bool :=
  accepted.all fun other => !other.span.encloses t.span

def inTextOrder (ts : List Token) : List Token :=
  ts.mergeSort fun a b => a.span.start ≤ b.span.start

/-- What nodes in order leave of a region: from where one of them ends, or the region
begins, to where the next one begins, or the region ends. -/
def uncovered (region : Span) (nodes : List Node) : List Span :=
  (List.zipWith Span.mk (region.start :: nodes.map (·.span.stop))
    (nodes.map (·.span.start) ++ [region.stop])).filter fun s => s.start < s.stop

def fill (region : Excerpt) (nodes : List Node) : List Node :=
  let texts := (uncovered region.span nodes).map fun s => Node.text (region.slice s)
  (texts ++ nodes).mergeSort fun a b => a.span.start ≤ b.span.start

/-- A token with all that goes under it; no token lies deeper than there are tokens. -/
def build (accepted : List Token) : Nat → Token → Node
  | 0, t => .token t []
  | bound + 1, t =>
      let children := (inTextOrder (accepted.filter (isParent accepted t))).map
        (build accepted bound)
      .token t (match t.content? with
        | none => children
        | some region => fill region children)

def tree (accepted : List Token) (text : Text) : List Node :=
  fill text.whole
    ((inTextOrder (accepted.filter (isRoot accepted))).map (build accepted accepted.length))

/-- The reference for tokenizing: every place is tried and every token compared. -/
def tokenize (patterns : List Pattern) (text : Text) : List Node :=
  tree (accept patterns text) text

theorem build_span (accepted : List Token) (bound : Nat) (t : Token) :
    (build accepted bound t).span = t.span := by
  cases bound <;> rfl

theorem isRoot_iff (accepted : List Token) (t : Token) :
    isRoot accepted t = true ↔ ∀ o ∈ accepted, o.span.encloses t.span = false := by
  simp [isRoot]

theorem isParent_iff (accepted : List Token) (outer inner : Token) :
    isParent accepted outer inner = true ↔ outer.span.encloses inner.span = true ∧
      ∀ o ∈ accepted, o.span.encloses inner.span = true → outer.span.width ≤ o.span.width := by
  simp only [isParent, Bool.and_eq_true, List.all_eq_true, Bool.or_eq_true, Bool.not_eq_true',
    decide_eq_true_eq]
  apply and_congr_right
  intro _
  apply forall_congr'
  intro o
  apply imp_congr_right
  intro _
  cases o.span.encloses inner.span <;> simp

theorem width_lt_of_encloses {outer inner : Span} (some : inner.start < inner.stop)
    (around : outer.encloses inner = true) : inner.width < outer.width := by
  rw [Span.encloses_iff] at around
  simp only [Span.width]
  omega

theorem mergeSort_of_rising {Item : Type} (place : Item → Nat) {items rising : List Item}
    (same : items.Perm rising) (rises : rising.Pairwise fun a b => place a < place b) :
    (items.mergeSort fun a b => place a ≤ place b) = rising := by
  have sorted : (items.mergeSort fun a b => place a ≤ place b).Pairwise
      fun a b => decide (place a ≤ place b) = true := by
    apply List.pairwise_mergeSort
    · intro a b c first second
      simp only [decide_eq_true_eq] at *
      omega
    · intro a b
      simp only [Bool.or_eq_true, decide_eq_true_eq]
      omega
  have apart : ∀ a ∈ rising, ∀ b ∈ rising, a = b ∨ place a < place b ∨ place b < place a :=
    List.Pairwise.forall_of_forall_of_flip (fun _ _ => Or.inl rfl)
      (rises.imp fun first => Or.inr (Or.inl first))
      (rises.imp fun first => Or.inr (Or.inr first))
  have perm := (List.mergeSort_perm items fun a b => place a ≤ place b).trans same
  refine List.Perm.eq_of_pairwise (fun a b first second le ge => ?_) sorted
    (rises.imp fun less => decide_eq_true (Nat.le_of_lt less)) perm
  simp only [decide_eq_true_eq] at le ge
  rcases apart a (perm.mem_iff.mp first) b second with equal | less | less
  · exact equal
  · omega
  · omega

section Fill

variable {text : Text} {region : Excerpt} {nodes : List Node}

theorem uncovered_cons (region : Span) (n : Node) (later : List Node) :
    uncovered region (n :: later) =
      [⟨region.start, n.span.start⟩].filter (fun s => s.start < s.stop) ++
        uncovered ⟨n.span.stop, region.stop⟩ later := by
  rw [uncovered, uncovered, ← List.filter_append]
  rfl

theorem start_of_mem_uncovered (region : Span) (inside : ∀ n ∈ nodes, region.start ≤ n.span.stop) :
    ∀ s ∈ uncovered region nodes, region.start ≤ s.start := by
  intro s member
  have between := (List.mem_filter.mp member).1
  rw [← List.map_uncurry_zip_eq_zipWith] at between
  obtain ⟨⟨start, stop⟩, zipped, rfl⟩ := List.mem_map.mp between
  rcases List.mem_cons.mp (List.of_mem_zip zipped).1 with rfl | later
  · exact Nat.le_refl _
  · obtain ⟨n, present, rfl⟩ := List.mem_map.mp later
    exact inside n present

theorem texts_singleton (e : Excerpt) (s : Span) (exact : (e.slice s).span = s) :
    ([s].filter fun s => s.start < s.stop).map (fun s => Node.text (e.slice s)) =
      Node.gap (e.slice s) := by
  have width : s.stop = s.start + (e.slice s).text.size := by
    conv => lhs; rw [← exact]
    rfl
  cases none : (e.slice s).text with
  | nil =>
      rw [none] at width
      have empty : ¬ s.start < s.stop := by simp [width, Text.size]
      simp [Node.gap, Excerpt.isEmpty, none, empty]
  | cons ch later =>
      have some := Text.size_pos_of_ne_nil _ (List.cons_ne_nil ch later)
      rw [← none] at some
      have wide : s.start < s.stop := by omega
      simp [Node.gap, Excerpt.isEmpty, none, wide]

theorem fillGaps_perm (stretch : region.Stretch text) (sound : ∀ n ∈ nodes, n.Sound text)
    (apart : nodes.Pairwise Node.Before)
    (inside : ∀ n ∈ nodes, region.span.contains n.span = true) :
    ((uncovered region.span nodes).map (fun s => Node.text (region.slice s)) ++ nodes).Perm
      (Node.fillGaps region nodes) := by
  induction nodes generalizing region with
  | nil =>
      have whole : region.slice region.span = region := (Excerpt.Covers.refl region).slice
      have last : (uncovered region.span []).map (fun s => Node.text (region.slice s)) =
          Node.gap region := by
        have alone := texts_singleton region region.span (by rw [whole])
        rwa [whole] at alone
      rw [last, List.append_nil, Node.fillGaps_nil]
  | cons n later ih =>
      obtain ⟨here, others⟩ := List.forall_mem_cons.mp sound
      obtain ⟨ahead, apart⟩ := List.pairwise_cons.mp apart
      obtain ⟨⟨_, beforeStop⟩, cut, behind, remains, remaining⟩ :=
        Node.region_cut stretch here ahead inside
      have rest := ih behind others apart remaining
      -- The later gaps are cut from what remains of the region, and are the same in the whole.
      have same : ∀ s ∈ uncovered ⟨n.span.stop, region.stop⟩ later,
          Node.text ((region.startingAt n.span.stop).slice s) = Node.text (region.slice s) := by
        intro s member
        have after : n.span.stop ≤ s.start := start_of_mem_uncovered _ (fun m present =>
          Nat.le_trans (ahead m present) (Nat.le_of_lt (others m present).nonempty)) s member
        rw [cut.slice_startingAt after]
      rw [remains, List.map_congr_left same] at rest
      have front : region.slice ⟨region.start, n.span.start⟩ = region.upTo n.span.start := by
        simp [Excerpt.slice, Excerpt.startingAt]
      have gap := texts_singleton region ⟨region.start, n.span.start⟩ (by
        rw [front, Excerpt.span, beforeStop]
        rfl)
      rw [front] at gap
      have left : uncovered region.span (n :: later) =
          [⟨region.start, n.span.start⟩].filter (fun s => s.start < s.stop) ++
            uncovered ⟨n.span.stop, region.stop⟩ later := uncovered_cons region.span n later
      rw [Node.fillGaps_cons, left, List.map_append, gap, List.append_assoc]
      exact (List.perm_middle.trans (rest.cons n)).append_left _

theorem fill_eq (stretch : region.Stretch text) (sound : ∀ n ∈ nodes, n.Sound text)
    (apart : nodes.Pairwise Node.Before)
    (inside : ∀ n ∈ nodes, region.span.contains n.span = true) :
    fill region nodes = Node.fillGaps region nodes := by
  obtain ⟨filled, tiles⟩ := Node.fillGaps_sound stretch sound apart inside
  refine mergeSort_of_rising (·.span.start) (fillGaps_perm stretch sound apart inside) ?_
  refine (List.pairwise_map.mp tiles.apart).imp_of_mem fun {a b} first _ before => ?_
  exact Nat.lt_of_lt_of_le (filled a first).nonempty before

end Fill

section Orderly

variable {text : Text} {t : Token} {ts accepted : List Token}

theorem encloses_of_precedes {a b : Token} (first : a.Solid) (second : b.Solid)
    (order : a.span.precedes b.span = true) (nests : a.nestsWith b = true)
    (overlap : b.span.start < a.span.stop) : a.span.encloses b.span = true := by
  rw [Span.encloses_iff]
  rcases Token.behind_or_held first second order nests with behind | ⟨_, contained⟩
  · omega
  · rw [Span.precedes_iff] at order
    rw [Span.contains_iff] at contained
    omega

theorem eq_of_start_eq (orderly : Token.Orderly text ts) {a b : Token} (first : a ∈ ts)
    (second : b ∈ ts) (outside : a.span.encloses b.span = false)
    (outside' : b.span.encloses a.span = false) (same : a.span.start = b.span.start) : a = b := by
  have solid := (orderly.wellCut a first).solid
  have solid' := (orderly.wellCut b second).solid
  rcases orderly.compare a first b second with equal | ⟨order, nests⟩ | ⟨order, nests⟩
  · exact equal
  · have := solid.nonempty
    rw [encloses_of_precedes solid solid' order nests (by omega)] at outside
    cases outside
  · have := solid'.nonempty
    rw [encloses_of_precedes solid' solid order nests (by omega)] at outside'
    cases outside'

/-- The order of the list is the order of the text. -/
theorem inTextOrder_filter (orderly : Token.Orderly text ts) (same : ts.Perm accepted)
    (p : Token → Bool) (flat : ∀ a ∈ ts, ∀ b ∈ ts, p a = true → p b = true →
      a.span.encloses b.span = false) : inTextOrder (accepted.filter p) = ts.filter p := by
  refine mergeSort_of_rising (·.span.start) (same.symm.filter p)
    ((orderly.arranged.filter p).imp_of_mem fun {a b} first second arranged => ?_)
  obtain ⟨first, chosen⟩ := List.mem_filter.mp first
  obtain ⟨second, chosen'⟩ := List.mem_filter.mp second
  have order := arranged.1
  rcases (Span.precedes_iff ..).mp order with earlier | ⟨start, _⟩
  · exact earlier
  · rw [eq_of_start_eq orderly first second (flat a first b second chosen chosen')
      (flat b second a first chosen' chosen) start, Span.precedes_irrefl] at order
    cases order

theorem isParent_flat (orderly : Token.Orderly text ts) (t : Token) :
    ∀ a ∈ ts, ∀ b ∈ ts, isParent ts t a = true → isParent ts t b = true →
      a.span.encloses b.span = false := by
  intro a first _ _ chosen chosen'
  rw [Bool.eq_false_iff]
  intro around
  have smaller := ((isParent_iff ..).mp chosen').2 a first around
  have larger := width_lt_of_encloses (orderly.wellCut a first).solid.nonempty
    ((isParent_iff ..).mp chosen).1
  omega

theorem isRoot_flat (ts : List Token) :
    ∀ a ∈ ts, ∀ b ∈ ts, isRoot ts a = true → isRoot ts b = true →
      a.span.encloses b.span = false :=
  fun a first _ _ _ chosen => (isRoot_iff ..).mp chosen a first

section Cons

variable (orderly : Token.Orderly text (t :: ts))

include orderly

theorem not_encloses_head {u : Token} (present : u ∈ ts) : u.span.encloses t.span = false := by
  have order := (Span.precedes_iff ..).mp ((List.pairwise_cons.mp orderly.arranged).1 u present).1
  rw [Bool.eq_false_iff]
  intro around
  rw [Span.encloses_iff] at around
  omega

theorem head_encloses {u : Token} (present : u ∈ ts) (overlap : u.span.start < t.span.stop) :
    t.span.encloses u.span = true := by
  obtain ⟨order, nests⟩ := (List.pairwise_cons.mp orderly.arranged).1 u present
  exact encloses_of_precedes (orderly.wellCut t List.mem_cons_self).solid
    (orderly.wellCut u (List.mem_cons_of_mem t present)).solid order nests overlap

theorem isRoot_head : isRoot (t :: ts) t = true := by
  rw [isRoot_iff, List.forall_mem_cons]
  exact ⟨Span.not_encloses_self _, fun u present => not_encloses_head orderly present⟩

theorem contains_head {u : Token} (present : u ∈ ts) :
    t.span.contains u.span = t.span.encloses u.span := by
  have order := ((List.pairwise_cons.mp orderly.arranged).1 u present).1
  have other : t.span ≠ u.span := by
    intro same
    rw [same, Span.precedes_irrefl] at order
    cases order
  simp [Span.encloses, other]

/-- The children of the first token are the roots of the others that it takes in. -/
theorem isParent_head {u : Token} (present : u ∈ ts) :
    isParent (t :: ts) t u = (t.span.encloses u.span && isRoot ts u) := by
  have some := (orderly.wellCut u (List.mem_cons_of_mem t present)).solid.nonempty
  rw [Bool.eq_iff_iff, isParent_iff, Bool.and_eq_true, isRoot_iff]
  apply and_congr_right
  intro around
  constructor
  · intro smallest o there
    rw [Bool.eq_false_iff]
    intro around'
    -- A token between the two would be a smaller container.
    have narrow := smallest o (List.mem_cons_of_mem t there) around'
    have overlap : o.span.start < t.span.stop := by
      rw [Span.encloses_iff] at around around'
      omega
    have wide := width_lt_of_encloses
      (orderly.wellCut o (List.mem_cons_of_mem t there)).solid.nonempty
      (head_encloses orderly there overlap)
    omega
  · intro root o there around'
    rcases List.mem_cons.mp there with rfl | other
    · exact Nat.le_refl _
    · rw [root o other] at around'
      cases around'

theorem isParent_cons {u o : Token} (first : u ∈ ts) (second : o ∈ ts) :
    isParent (t :: ts) u o = isParent ts u o := by
  have some := (orderly.wellCut o (List.mem_cons_of_mem t second)).solid.nonempty
  rw [Bool.eq_iff_iff, isParent_iff, isParent_iff]
  apply and_congr_right
  intro around
  rw [List.forall_mem_cons]
  apply and_iff_right_of_imp
  intro _ around'
  have overlap : u.span.start < t.span.stop := by
    rw [Span.encloses_iff] at around around'
    omega
  exact Nat.le_of_lt (width_lt_of_encloses
    (orderly.wellCut u (List.mem_cons_of_mem t first)).solid.nonempty
    (head_encloses orderly first overlap))

theorem children_head : (t :: ts).filter (isParent (t :: ts) t) =
    ts.filter fun u => t.span.encloses u.span && isRoot ts u := by
  have own : isParent (t :: ts) t t = false := by simp [isParent, Span.not_encloses_self]
  rw [List.filter_cons, own]
  exact List.filter_congr fun u present => isParent_head orderly present

theorem children_cons {u : Token} (present : u ∈ ts) :
    (t :: ts).filter (isParent (t :: ts) u) = ts.filter (isParent ts u) := by
  have none : isParent (t :: ts) u t = false := by
    simp [isParent, not_encloses_head orderly present]
  rw [List.filter_cons, none]
  exact List.filter_congr fun o there => isParent_cons orderly present there

end Cons

theorem inTextOrder_children (orderly : Token.Orderly text ts) (t : Token) :
    inTextOrder (ts.filter (isParent ts t)) = ts.filter (isParent ts t) :=
  inTextOrder_filter orderly (.refl ts) _ (isParent_flat orderly t)

theorem build_cons (orderly : Token.Orderly text (t :: ts)) (bound : Nat) (u : Token)
    (present : u ∈ ts) : build (t :: ts) bound u = build ts bound u := by
  induction bound generalizing u with
  | zero => rfl
  | succ bound ih =>
      -- A token is never its own container, so the first one is nobody else's child here.
      have children : (inTextOrder ((t :: ts).filter (isParent (t :: ts) u))).map
          (build (t :: ts) bound) = (inTextOrder (ts.filter (isParent ts u))).map
          (build ts bound) := by
        rw [children_cons orderly present, inTextOrder_children orderly.tail]
        exact List.map_congr_left fun o inside => ih o (List.mem_filter.mp inside).1
      simp only [build, children]

/-- What is built of the later tokens is built the same with the first one at their head. -/
theorem map_build_cons (orderly : Token.Orderly text (t :: ts)) (bound : Nat)
    (p q : Token → Bool) (same : ∀ u ∈ ts, p u = q u) :
    (ts.filter p).map (build ts bound) = (ts.filter q).map (build (t :: ts) bound) := by
  rw [List.filter_congr same]
  apply List.map_congr_left
  intro u chosen
  exact (build_cons orderly bound u (List.mem_filter.mp chosen).1).symm

/-- Placing tokens from the last to the first builds the tree of parents. -/
theorem nest_eq (orderly : Token.Orderly text ts) (bound : Nat) (enough : ts.length ≤ bound) :
    Node.nest ts = (ts.filter (isRoot ts)).map (build ts bound) := by
  induction ts generalizing bound with
  | nil => rfl
  | cons t later ih =>
      obtain ⟨below, rfl⟩ := Nat.exists_eq_add_of_le' (Nat.le_trans (Nat.le_add_left 1 _) enough)
      rw [List.length_cons] at enough
      -- The trees below the first token may be one level less deep than those beside it.
      have shallow := ih orderly.tail below (by omega)
      have deep := ih orderly.tail (below + 1) (by omega)
      have inside : ((Node.nest later).filter fun n => t.span.contains n.span) =
          (inTextOrder ((t :: later).filter (isParent (t :: later) t))).map
            (build (t :: later) below) := by
        rw [inTextOrder_children orderly, children_head orderly, shallow, List.filter_map,
          List.filter_filter]
        apply map_build_cons orderly below
        intro u present
        simp [build_span, contains_head orderly present]
      have behind : ((Node.nest later).filter fun n => !t.span.contains n.span) =
          (later.filter (isRoot (t :: later))).map (build (t :: later) (below + 1)) := by
        rw [deep, List.filter_map, List.filter_filter]
        apply map_build_cons orderly (below + 1)
        intro u present
        simp [build_span, contains_head orderly present, isRoot]
      have grown := Node.nest_grown orderly.tail
      have split := Node.span_contains orderly grown
      obtain ⟨region, content, _, stretch, held⟩ := Node.held_in_content orderly grown
      have filled := fill_eq stretch (fun n member => grown.sound n (held n member).1)
        (grown.apart.filter _) fun n member => (held n member).2.2
      rw [List.filter_cons, if_pos (isRoot_head orderly), List.map_cons, ← behind, build, ← inside]
      simp only [content, filled]
      simp only [Node.nest, List.foldr_cons, Node.place] at split ⊢
      rw [split, content]

end Orderly

section Permuted

variable {text : Text} {ts accepted : List Token}

theorem isRoot_perm (same : ts.Perm accepted) : isRoot accepted = isRoot ts :=
  funext fun _ => same.symm.all_eq

theorem isParent_perm (same : ts.Perm accepted) : isParent accepted = isParent ts := by
  funext outer inner
  simp only [isParent, same.symm.all_eq]

theorem build_perm (orderly : Token.Orderly text ts) (same : ts.Perm accepted) (bound : Nat)
    (t : Token) : build accepted bound t = build ts bound t := by
  induction bound generalizing t with
  | zero => rfl
  | succ bound ih =>
      have children : (inTextOrder (accepted.filter (isParent accepted t))).map
          (build accepted bound) = (inTextOrder (ts.filter (isParent ts t))).map
          (build ts bound) := by
        rw [isParent_perm same, inTextOrder_filter orderly same _ (isParent_flat orderly t),
          inTextOrder_children orderly]
        exact List.map_congr_left fun o _ => ih o
      simp only [build, children]

theorem tree_eq (orderly : Token.Orderly text ts) (same : ts.Perm accepted) :
    tree accepted text = Node.fillGaps text.whole (Node.nest ts) := by
  have trees : (ts.filter (isRoot ts)).map (build accepted accepted.length) = Node.nest ts := by
    rw [nest_eq orderly accepted.length (Nat.le_of_eq same.length_eq)]
    exact List.map_congr_left fun t _ => build_perm orderly same _ t
  have grown := Node.nest_grown orderly
  rw [tree, isRoot_perm same, inTextOrder_filter orderly same _ (isRoot_flat ts), trees]
  exact fill_eq text.whole_stretch grown.sound grown.apart grown.inside

end Permuted

end Plain

/-- Tokenizing is the plain way to tokenize. -/
theorem tokenize_eq_plain (text : Text) :
    tokenize text = .ok (Plain.tokenize Grammar.markdown text) := by
  obtain ⟨ts, same, orderly, _, made⟩ :=
    tokenizeWith_grown Grammar.markdown Grammar.markdown_lawful text
  rw [tokenize, made, Plain.tokenize, Plain.tree_eq orderly same]

end MarkdownHighlight
