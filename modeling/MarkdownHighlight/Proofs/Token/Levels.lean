import Mathlib.Algebra.GroupWithZero.Nat
import MarkdownHighlight.Proofs.Token.Lossless
import MarkdownHighlight.Markup.Render
import MarkdownHighlight.Terminal.Paint

/-!
The levels of a tree. What works through a tree calls itself once more for each level, so a
bound on the depth is a bound on the calls that are open at once: for counting the nodes,
for markup, for painting, and for filling the gaps of the bare tokens.
-/

namespace MarkdownHighlight

namespace Node

def children : Node → List Node
  | .text _ => []
  | .token _ children => children

/-- A way down some trees: one of the nodes, then one of its children, and so on. -/
inductive Descent : List Node → List Node → Prop
  | stop (nodes : List Node) : Descent nodes []
  | step {nodes path : List Node} {n : Node} (member : n ∈ nodes)
      (below : Descent n.children path) : Descent nodes (n :: path)

mutual

def depth : Node → Nat
  | .text _ => 1
  | .token _ children => 1 + depthAll children

def depthAll : List Node → Nat
  | [] => 0
  | n :: later => max n.depth (depthAll later)

end

theorem Descent.mono {nodes more path : List Node} (descent : Descent nodes path)
    (subset : nodes ⊆ more) : Descent more path := by
  cases descent with
  | stop => exact .stop more
  | step member below => exact .step (subset member) below

mutual

theorem exists_descent_depth : (n : Node) →
    ∃ path, Descent n.children path ∧ path.length + 1 = n.depth
  | .text _ => ⟨[], .stop _, rfl⟩
  | .token _ children => by
      obtain ⟨path, descent, length⟩ := exists_descent_depthAll children
      exact ⟨path, descent, by rw [depth, length, Nat.add_comm]⟩

theorem exists_descent_depthAll : (nodes : List Node) →
    ∃ path, Descent nodes path ∧ path.length = depthAll nodes
  | [] => ⟨[], .stop _, rfl⟩
  | n :: later => by
      rcases Nat.le_total (depthAll later) n.depth with first | rest
      · obtain ⟨path, descent, length⟩ := exists_descent_depth n
        refine ⟨n :: path, .step List.mem_cons_self descent, ?_⟩
        rw [depthAll, Nat.max_eq_left first, List.length_cons, length]
      · obtain ⟨path, descent, length⟩ := exists_descent_depthAll later
        refine ⟨path, descent.mono (List.subset_cons_self n later), ?_⟩
        rw [depthAll, Nat.max_eq_right rest, length]

end

theorem depthAll_le {nodes : List Node} {bound : Nat}
    (bounded : ∀ path, Descent nodes path → path.length ≤ bound) : depthAll nodes ≤ bound := by
  obtain ⟨path, descent, length⟩ := exists_descent_depthAll nodes
  exact length ▸ bounded path descent

theorem depth_le_depthAll {nodes : List Node} {n : Node} (member : n ∈ nodes) :
    n.depth ≤ depthAll nodes := by
  induction nodes with
  | nil => cases member
  | cons m later ih =>
      rw [depthAll]
      rcases List.mem_cons.mp member with rfl | other
      · exact Nat.le_max_left ..
      · exact Nat.le_trans (ih other) (Nat.le_max_right ..)

section Fold

variable {Result : Type} {ofText : Excerpt → Result} {ofToken : Token → List Result → Result}

/-- A recursion through a tree of which no more than `levels` calls may be open at once: what
it makes of text, and of a token with what it made of the children. -/
def foldWithin (ofText : Excerpt → Result) (ofToken : Token → List Result → Result) :
    Nat → Node → Option Result
  | 0, _ => none
  | _ + 1, .text source => some (ofText source)
  | levels + 1, .token t children =>
      (children.mapM (foldWithin ofText ofToken levels)).map (ofToken t)

theorem mapM_eq_some {Item : Type} {f : Item → Option Result} {g : Item → Result}
    (items : List Item) (each : ∀ item ∈ items, f item = some (g item)) :
    items.mapM f = some (items.map g) := by
  induction items with
  | nil => rfl
  | cons item later ih =>
      obtain ⟨here, there⟩ := List.forall_mem_cons.mp each
      rw [List.mapM_cons, here, ih there]
      rfl

/-- As many calls as there are levels are enough. -/
theorem foldWithin_eq (f : Node → Result) (text : ∀ source, f (.text source) = ofText source)
    (token : ∀ t children, f (.token t children) = ofToken t (children.map f))
    {levels : Nat} {n : Node} (deep : n.depth ≤ levels) :
    foldWithin ofText ofToken levels n = some (f n) := by
  induction levels generalizing n with
  | zero =>
      cases n with
      | text => cases deep
      | token =>
          rw [depth] at deep
          omega
  | succ levels ih =>
      cases n with
      | text source => rw [foldWithin, text]
      | token t children =>
          have below : ∀ m ∈ children, foldWithin ofText ofToken levels m = some (f m) := by
            intro m member
            have := depth_le_depthAll member
            rw [depth] at deep
            exact ih (by omega)
          rw [foldWithin, mapM_eq_some children below, token]
          rfl

end Fold

def countToken (_ : Token) (below : List Nat) : Nat := 1 + below.sum

theorem countAll_eq (nodes : List Node) : countAll nodes = (nodes.map count).sum := by
  induction nodes with
  | nil => rfl
  | cons n later ih => rw [countAll, ih, List.map_cons, List.sum_cons]

theorem count_within {levels : Nat} {n : Node} (deep : n.depth ≤ levels) :
    foldWithin (fun _ => 1) countToken levels n = some n.count :=
  foldWithin_eq count (fun _ => rfl)
    (fun t children => by rw [count, countAll_eq, countToken]) deep

end Node

namespace Markup

def tokenMarkup (t : Token) (below : List Text) : Text :=
  tagged (tokenClasses t.kind) (t.parts.flatMap fun p =>
    wrapPart t.type p.role
      (if p.role = .content && !below.isEmpty then below.flatten else escape (t.partText p)))

theorem renderNodes_eq (nodes : List Node) : renderNodes nodes = (nodes.map renderNode).flatten := by
  induction nodes with
  | nil => rfl
  | cons n later ih => rw [renderNodes, ih, List.map_cons, List.flatten_cons]

theorem renderNode_within {levels : Nat} {n : Node} (deep : n.depth ≤ levels) :
    Node.foldWithin (escape ·.text) tokenMarkup levels n = some (renderNode n) :=
  Node.foldWithin_eq renderNode (fun _ => rfl)
    (fun t children => by rw [renderNode, renderNodes_eq, tokenMarkup, List.isEmpty_map]) deep

end Markup

namespace Terminal

def tokenPaint (t : Token) (below : List (Style → Text)) (base : Style) : Text :=
  t.parts.flatMap fun p =>
    let style := base.merge (.ofPart t.type p.role)
    if p.role = .content && !below.isEmpty then below.flatMap (· style)
    else paintText style (t.partText p)

theorem paintNodes_eq (base : Style) (nodes : List Node) :
    paintNodes base nodes = (nodes.map fun n base => paintNode base n).flatMap (· base) := by
  induction nodes with
  | nil => rfl
  | cons n later ih => rw [paintNodes, ih, List.map_cons, List.flatMap_cons]

theorem paintNode_within {levels : Nat} {n : Node} (deep : n.depth ≤ levels) :
    Node.foldWithin (fun source base => paintText base source.text) tokenPaint levels n =
      some fun base => paintNode base n := by
  refine Node.foldWithin_eq (fun n base => paintNode base n) (fun _ => rfl)
    (fun t children => ?_) deep
  funext base
  simp only [paintNode, paintNodes_eq, tokenPaint, List.isEmpty_map]

end Terminal

theorem Token.type_ne_text (t : Token) : t.type ≠ .text := by
  rw [Token.type]
  cases t.kind <;> exact nofun

namespace Node

def fillContent (t : Token) (below : List Node) : List Node :=
  match t.content? with
  | none => below
  | some region => fillGaps region below

def fillToken (t : Token) (below : List Node) : Node := .token t (fillContent t below)

mutual

def bare : Node → Node
  | .text source => .text source
  | .token t children => .token t (bareAll children)

def bareAll : List Node → List Node
  | [] => []
  | .text _ :: later => bareAll later
  | .token t children :: later => bare (.token t children) :: bareAll later

end

mutual

def Filled : Node → Prop
  | .text _ => True
  | .token t children => FilledAll children ∧
      fillContent t (children.filter (·.type != .text)) = children

def FilledAll : List Node → Prop
  | [] => True
  | n :: later => n.Filled ∧ FilledAll later

end

theorem filledAll_iff (nodes : List Node) : FilledAll nodes ↔ ∀ n ∈ nodes, n.Filled := by
  induction nodes with
  | nil => simp [FilledAll]
  | cons n later ih => simp [FilledAll, ih]

theorem bareAll_eq (nodes : List Node) :
    bareAll nodes = (nodes.filter (·.type != .text)).map bare := by
  induction nodes with
  | nil => rfl
  | cons n later ih =>
      cases n with
      | text source => rw [bareAll, ih, List.filter_cons_of_neg (by simp [type])]
      | token t children =>
          rw [bareAll, ih, List.filter_cons_of_pos (by simp [type, t.type_ne_text]),
            List.map_cons]

/-- What leads down a tree without its text leads down the tree, from token to token. -/
theorem Descent.of_bareAll {nodes path : List Node} (descent : Descent (bareAll nodes) path) :
    ∃ tokens, Descent nodes tokens ∧ path = tokens.map bare ∧ ∀ n ∈ tokens, n.type ≠ .text := by
  induction path generalizing nodes with
  | nil => exact ⟨[], .stop nodes, rfl, nofun⟩
  | cons m path ih =>
      cases descent with
      | step member below =>
          rw [bareAll_eq] at member
          obtain ⟨n, present, rfl⟩ := List.mem_map.mp member
          obtain ⟨inside, other⟩ := List.mem_filter.mp present
          rw [bne_iff_ne] at other
          cases n with
          | text source => exact absurd rfl other
          | token t children =>
              rw [bare] at below
              obtain ⟨tokens, descent, rfl, types⟩ := ih below
              exact ⟨.token t children :: tokens, .step inside descent, rfl,
                List.forall_mem_cons.mpr ⟨other, types⟩⟩

section Filling

variable {region : Excerpt} {nodes below : List Node} {t : Token}

theorem mem_fillGaps {n : Node} (member : n ∈ fillGaps region nodes) :
    n ∈ nodes ∨ n.type = .text := by
  induction nodes generalizing region with
  | nil =>
      rw [fillGaps_nil] at member
      exact Or.inr (type_of_gap _ n member)
  | cons m later ih =>
      rw [fillGaps_cons, List.mem_append, List.mem_cons] at member
      rcases member with before | rfl | behind
      · exact Or.inr (type_of_gap _ n before)
      · exact Or.inl List.mem_cons_self
      · exact (ih behind).imp (List.mem_cons_of_mem m) id

theorem filter_gap (e : Excerpt) : (gap e).filter (·.type != .text) = [] :=
  List.filter_eq_nil_iff.mpr fun n member => by simp [type_of_gap e n member]

theorem filter_fillGaps (region : Excerpt) (nodes : List Node) :
    (fillGaps region nodes).filter (·.type != .text) = nodes.filter (·.type != .text) := by
  induction nodes generalizing region with
  | nil => rw [fillGaps_nil, filter_gap, List.filter_nil]
  | cons n later ih =>
      rw [fillGaps_cons, List.filter_append, filter_gap, List.nil_append, List.filter_cons,
        List.filter_cons, ih]

theorem Filled.of_text {n : Node} (text : n.type = .text) : n.Filled := by
  cases n with
  | text => trivial
  | token t => exact absurd text t.type_ne_text

theorem filledAll_fillGaps (filled : FilledAll nodes) : FilledAll (fillGaps region nodes) :=
  (filledAll_iff _).mpr fun n member =>
    (mem_fillGaps member).elim ((filledAll_iff nodes).mp filled n) Filled.of_text

theorem filled_fillToken (filled : FilledAll below) (tokens : ∀ n ∈ below, n.type ≠ .text) :
    (fillToken t below).Filled := by
  have whole : below.filter (·.type != .text) = below :=
    List.filter_eq_self.mpr fun n member => bne_iff_ne.mpr (tokens n member)
  rw [fillToken, Filled]
  cases content : t.content? with
  | none =>
      simp only [fillContent, content]
      exact ⟨filled, whole⟩
  | some region =>
      simp only [fillContent, content, filter_fillGaps, whole]
      exact ⟨filledAll_fillGaps filled, trivial⟩

structure Full (nodes : List Node) : Prop where
  filled : FilledAll nodes
  tokens : ∀ n ∈ nodes, n.type ≠ .text

theorem place_full (t : Token) (full : Full nodes) : Full (place t nodes) := by
  have here : place t nodes = fillToken t (nodes.takeWhile fun n => t.span.contains n.span) ::
      nodes.dropWhile fun n => t.span.contains n.span := by
    rw [place, List.span_eq_takeWhile_dropWhile]
    rfl
  have inside := (nodes.takeWhile_sublist fun n => t.span.contains n.span).subset
  have after := (nodes.dropWhile_sublist fun n => t.span.contains n.span).subset
  have each := (filledAll_iff nodes).mp full.filled
  rw [here]
  constructor
  case filled =>
    refine ⟨filled_fillToken ((filledAll_iff _).mpr fun n member => each n (inside member))
      fun n member => full.tokens n (inside member), ?_⟩
    exact (filledAll_iff _).mpr fun n member => each n (after member)
  case tokens =>
    exact List.forall_mem_cons.mpr ⟨t.type_ne_text,
      fun n member => full.tokens n (after member)⟩

theorem nest_full (ts : List Token) : Full (nest ts) := by
  induction ts with
  | nil => exact ⟨trivial, nofun⟩
  | cons t later ih => exact place_full t ih

theorem mapM_bareAll {f : Node → Option Node}
    (each : ∀ n ∈ nodes.filter (·.type != .text), f n.bare = some n) :
    (bareAll nodes).mapM f = some (nodes.filter (·.type != .text)) := by
  have made := mapM_eq_some (f := f ∘ bare) (g := id) _ each
  rwa [List.map_id, ← List.mapM_map, ← bareAll_eq] at made

theorem depth_bare_le {n : Node} (member : n ∈ nodes.filter (·.type != .text)) :
    n.bare.depth ≤ depthAll (bareAll nodes) := by
  rw [bareAll_eq]
  exact depth_le_depthAll (List.mem_map_of_mem member)

/-- To fill the gaps, as many calls are open at once as the tokens have levels. -/
theorem foldWithin_bare {levels : Nat} {n : Node} (filled : n.Filled)
    (deep : n.bare.depth ≤ levels) : foldWithin .text fillToken levels n.bare = some n := by
  induction levels generalizing n with
  | zero =>
      cases n with
      | text => cases deep
      | token =>
          rw [bare, depth] at deep
          omega
  | succ levels ih =>
      cases n with
      | text => rfl
      | token t children =>
          obtain ⟨below, same⟩ := filled
          rw [bare, depth] at deep
          have each : ∀ m ∈ children.filter (·.type != .text),
              foldWithin .text fillToken levels m.bare = some m := fun m member =>
            ih ((filledAll_iff children).mp below m (List.mem_filter.mp member).1)
              (by have := depth_bare_le member; omega)
          rw [bare, foldWithin, mapM_bareAll each, Option.map_some, fillToken, same]

/-- The trees without their text, filled and put into the region, are the trees with it. -/
theorem Full.fill {levels : Nat} (full : Full nodes) (region : Excerpt)
    (deep : depthAll (bareAll (fillGaps region nodes)) ≤ levels) :
    ((bareAll (fillGaps region nodes)).mapM (foldWithin .text fillToken levels)).map
      (fillGaps region) = some (fillGaps region nodes) := by
  have whole : nodes.filter (·.type != .text) = nodes :=
    List.filter_eq_self.mpr fun n member => bne_iff_ne.mpr (full.tokens n member)
  have each : ∀ n ∈ (fillGaps region nodes).filter (·.type != .text),
      foldWithin .text fillToken levels n.bare = some n := by
    intro n member
    have lower := depth_bare_le member
    rw [filter_fillGaps, whole] at member
    exact foldWithin_bare ((filledAll_iff nodes).mp full.filled n member) (by omega)
  rw [mapM_bareAll each, filter_fillGaps, whole, Option.map_some]

end Filling

end Node

end MarkdownHighlight
