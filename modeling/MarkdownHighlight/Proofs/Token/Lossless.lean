import MarkdownHighlight.Proofs.Token.Forest

/-!
The tree of a text loses nothing of the text. Its roots tile the text, the parts
of every token tile the token, and the nodes below a token tile its one content
part, so what is nested stays clear of the markers around it. Code holds text
alone, and no two tokens of a tree cross.
-/

namespace MarkdownHighlight

namespace Token.WellCut

variable {text : Text} {t : Token}

theorem one_content (wellCut : t.WellCut text) :
    (t.parts.filter (·.role == .content)).length = 1 := by
  obtain ⟨before, inner, after, parts, single⟩ := wellCut.content
  have left : before.filter (·.role == .content) = [] := by
    apply List.filter_eq_nil_iff.mpr
    intro p member
    simpa using single p (List.mem_append_left _ member)
  have right : after.filter (·.role == .content) = [] := by
    apply List.filter_eq_nil_iff.mpr
    intro p member
    simpa using single p (List.mem_append_right _ member)
  simp [parts, left, right]

theorem apart_from_content (wellCut : t.WellCut text) {inner : Span}
    (found : t.contentSpan? = some inner) (p : Part) (member : p ∈ t.parts)
    (role : p.role ≠ .content) : p.span.stop ≤ inner.start ∨ inner.stop ≤ p.span.start := by
  obtain ⟨before, own, after, parts, single⟩ := wellCut.content
  have first := contentSpan?_of_parts parts fun q there =>
    single q (List.mem_append_left _ there)
  have same : own = inner := Option.some.inj (first.symm.trans found)
  subst same
  have apart := wellCut.tiles.apart
  rw [parts, List.map_append, List.map_cons, List.pairwise_append, List.pairwise_cons] at apart
  obtain ⟨_, ⟨later, _⟩, across⟩ := apart
  rw [parts] at member
  rcases List.mem_append.mp member with ahead | other
  · left
    exact across p.span (List.mem_map_of_mem ahead) own List.mem_cons_self
  · rcases List.mem_cons.mp other with here | behind
    · exact absurd (by rw [here]) role
    · right
      exact later p.span (List.mem_map_of_mem behind)

end Token.WellCut

namespace Node

mutual

def every : Node → List Node
  | .text source => [.text source]
  | .token t children => .token t children :: everyAll children

def everyAll : List Node → List Node
  | [] => []
  | n :: later => n.every ++ everyAll later

end

mutual

theorem Sound.every {text : Text} : (n : Node) → n.Sound text → ∀ m ∈ n.every, m.Sound text
  | .text source, sound => fun m member => by
      rw [Node.every, List.mem_singleton] at member
      rwa [member]
  | .token t children, sound => fun m member => by
      rw [Node.every, List.mem_cons] at member
      rcases member with rfl | below
      · exact sound
      · exact Sound.everyAll children sound.2.1 m below

theorem Sound.everyAll {text : Text} :
    (nodes : List Node) → SoundAll text nodes → ∀ m ∈ everyAll nodes, m.Sound text
  | [], _ => nofun
  | n :: later, ⟨here, there⟩ => fun m member => by
      rw [Node.everyAll, List.mem_append] at member
      rcases member with first | second
      · exact Sound.every n here m first
      · exact Sound.everyAll later there m second

end

theorem flatMap_splits {Item : Type} {text : Text} {e : Excerpt} {f : Excerpt → List Item}
    {nodes : List Node} (splits : Excerpt.Stretch.Splits text f) (stretch : e.Stretch text)
    (sound : ∀ n ∈ nodes, n.Sound text)
    (tiles : Span.Tiles e.start e.stop (nodes.map (·.span))) :
    (nodes.flatMap fun n => f n.source) = f e := by
  have pieces := splits.flatMap_slices _ stretch tiles fun s member => by
    obtain ⟨n, present, rfl⟩ := List.mem_map.mp member
    exact ⟨(sound n present).stretch.1.first, (sound n present).stretch.1.last⟩
  rw [← pieces, List.flatMap_map]
  apply List.flatMap_congr
  intro n member
  have bounds := tiles.inside n.span (List.mem_map_of_mem member)
  have inside : e.span.contains n.source.span = true :=
    (Span.contains_iff ..).mpr ⟨bounds.1, bounds.2.2⟩
  have covered := stretch.covered.of_contains (sound n member).stretch.1.covered inside
  rw [Node.span, covered.slice]

theorem flatMap_source {text : Text} {e : Excerpt} {f : Text → Text} {nodes : List Node}
    (piecewise : Excerpt.Stretch.Piecewise text f) (stretch : e.Stretch text)
    (sound : ∀ n ∈ nodes, n.Sound text)
    (tiles : Span.Tiles e.start e.stop (nodes.map (·.span))) :
    (nodes.flatMap fun n => f n.source.text) = f e.text :=
  flatMap_splits piecewise.splits stretch sound tiles

structure Held (t : Token) (children : List Node) : Prop where
  /-- The parts follow each other from end to end of the token, one of them the content. -/
  parts : Span.Tiles t.span.start t.span.stop (t.parts.map (·.span))
  single : (t.parts.filter (·.role == .content)).length = 1
  /-- The children follow each other from end to end of the content. -/
  content : ∀ p ∈ t.parts, p.role = .content →
    Span.Tiles p.span.start p.span.stop (children.map (·.span)) ∧
      (children = [] ↔ p.span.start = p.span.stop)
  nonempty : ∀ n ∈ children, n.span.start < n.span.stop
  clear : ∀ p ∈ t.parts, p.role ≠ .content → ∀ n ∈ children, p.span.disjoint n.span = true
  code : t.type.isOpaque = true → ∀ n ∈ children, n.type = .text

structure Lossless (text : Text) (nodes : List Node) : Prop where
  tiles : Span.Tiles 0 text.size (nodes.map (·.span))
  nonempty : ∀ n ∈ nodes, n.span.start < n.span.stop
  joined : (nodes.flatMap (·.source.text)) = text
  source : ∀ n ∈ everyAll nodes, text.whole.slice n.span = n.source
  held : ∀ t children, .token t children ∈ everyAll nodes → Held t children
  nested : (tokensAll nodes).Pairwise fun a b => a.span.disjoint b.span = true ∨
    (∃ inner, a.contentSpan? = some inner ∧ inner.contains b.span = true) ∨
    (∃ inner, b.contentSpan? = some inner ∧ inner.contains a.span = true)

theorem Sound.held {text : Text} {t : Token} {children : List Node}
    (sound : (Node.token t children).Sound text) : Held t children := by
  obtain ⟨wellCut, below, ⟨inner, found, tiles⟩, code⟩ := sound
  have sounds := (soundAll_iff ..).mp below
  have nonempty : ∀ n ∈ children, n.span.start < n.span.stop :=
    fun n member => (sounds n member).nonempty
  constructor
  case parts => exact wellCut.tiles
  case single => exact wellCut.one_content
  case content =>
    intro p member role
    have own : p.span = inner := by
      have := wellCut.contentSpan?_of_role p member role
      exact Option.some.inj (this.symm.trans found)
    rw [own]
    refine ⟨tiles, ?_⟩
    cases children with
    | nil => exact ⟨fun _ => tiles, fun _ => rfl⟩
    | cons n later =>
        have := nonempty n List.mem_cons_self
        have bounds := tiles.inside n.span List.mem_cons_self
        refine ⟨nofun, fun none => ?_⟩
        omega
  case nonempty => exact nonempty
  case clear =>
    intro p member role n child
    have bounds := tiles.inside n.span (List.mem_map_of_mem child)
    have apart := wellCut.apart_from_content found p member role
    rw [Span.disjoint_iff]
    omega
  case code => exact code

end Node

/-- Every text has a tree, and the tree loses nothing of it. -/
theorem tokenize_lossless (text : Text) :
    ∃ nodes, tokenize text = .ok nodes ∧ Node.Lossless text nodes := by
  obtain ⟨nodes, made, sound, tiles, orderly⟩ :=
    tokenizeWith_sound Grammar.markdown Grammar.markdown_lawful text
  have stop : text.whole.stop = text.size := by simp [Excerpt.stop, Text.whole]
  have sounds := Node.Sound.everyAll nodes ((Node.soundAll_iff ..).mpr sound)
  refine ⟨nodes, made, ?_⟩
  constructor
  case tiles => exact tiles
  case nonempty =>
    intro n member
    exact (sound n member).nonempty
  case joined =>
    exact Node.flatMap_source (Excerpt.Stretch.piecewise_id text) text.whole_stretch sound
      (by rw [stop]; exact tiles)
  case source =>
    intro n member
    exact (sounds n member).stretch.1.covered.slice
  case held =>
    intro t children member
    exact (sounds _ member).held
  case nested =>
    apply orderly.arranged.imp
    intro a b arranged
    rcases (Token.nestsWith_iff a b).mp arranged.2 with apart | ⟨_, outer | inner⟩
    · exact Or.inl apart
    · exact Or.inr (Or.inl (Token.content_of_holds outer))
    · exact Or.inr (Or.inr (Token.content_of_holds inner))

end MarkdownHighlight
