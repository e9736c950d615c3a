import MarkdownHighlight.Proofs.Token.Lossless
import MarkdownHighlight.Terminal.Style

/-!
The layers of style around a character. Each token that holds the character adds
the style of the part in which it stands, and the tokens around one place hold
each other, so their order in reading is from the outside in. Of nodes that tile a
region only one has layers at a place.
-/

namespace MarkdownHighlight

namespace Style

def layered (layers : List Style) : Style := layers.foldl merge plain

theorem foldl_merge_flag (flag : Style → Bool)
    (adds : ∀ outer inner, flag (merge outer inner) = (flag outer || flag inner))
    (layers : List Style) (base : Style) :
    flag (layers.foldl merge base) = (flag base || layers.any flag) := by
  induction layers generalizing base with
  | nil => simp
  | cons layer inner ih => rw [List.foldl_cons, ih, adds, List.any_cons, Bool.or_assoc]

theorem foldl_merge_fg (layers : List Style) (base : Style) : (layers.foldl merge base).fg =
    ((layers.map (·.fg)).filter (· != .standard)).getLastD base.fg := by
  induction layers generalizing base with
  | nil => rfl
  | cons layer inner ih =>
      rw [List.foldl_cons, ih, List.map_cons, List.filter_cons]
      by_cases unset : layer.fg = .standard
      · simp [merge, unset]
      · simp [merge, unset, List.getLastD_eq_getLast?, List.getLast?_cons]

/-- How layers add up: attributes accumulate, and of the colours that are set the
innermost counts. -/
structure Combines (layers : List Style) (s : Style) : Prop where
  fg : s.fg = ((layers.map (·.fg)).filter (· != .standard)).getLastD .standard
  bold : s.bold = layers.any (·.bold)
  italic : s.italic = layers.any (·.italic)
  underline : s.underline = layers.any (·.underline)
  strikethrough : s.strikethrough = layers.any (·.strikethrough)

theorem combines_layered (layers : List Style) : Combines layers (layered layers) where
  fg := foldl_merge_fg layers plain
  bold := foldl_merge_flag (·.bold) (fun _ _ => rfl) layers plain
  italic := foldl_merge_flag (·.italic) (fun _ _ => rfl) layers plain
  underline := foldl_merge_flag (·.underline) (fun _ _ => rfl) layers plain
  strikethrough := foldl_merge_flag (·.strikethrough) (fun _ _ => rfl) layers plain

end Style

def Span.includes (s : Span) (place : Nat) : Bool := s.start ≤ place && place < s.stop

theorem Span.includes_iff (s : Span) (place : Nat) :
    s.includes place = true ↔ s.start ≤ place ∧ place < s.stop := by
  simp [includes]

namespace Token

def layerAt? (t : Token) (place : Nat) : Option Style :=
  (t.parts.find? (·.span.includes place)).map fun p => .ofPart t.type p.role

/-- The layers of the tokens around a place; of tokens in reading order the
outermost comes first. -/
def layersAt (tokens : List Token) (place : Nat) : List Style :=
  tokens.filterMap (·.layerAt? place)

theorem layersAt_cons_of_some {t : Token} {place : Nat} {layer : Style}
    (inside : t.layerAt? place = some layer) (later : List Token) :
    layersAt (t :: later) place = layer :: layersAt later place := by
  simp [layersAt, inside]

theorem layersAt_append (before after : List Token) (place : Nat) :
    layersAt (before ++ after) place = layersAt before place ++ layersAt after place := by
  simp [layersAt]

theorem layersAt_eq_nil {tokens : List Token} {place : Nat}
    (outside : ∀ t ∈ tokens, t.layerAt? place = none) : layersAt tokens place = [] := by
  rw [layersAt, List.filterMap_eq_nil_iff]
  exact outside

variable {text : Text} {t : Token} {place : Nat}

theorem WellCut.layerAt?_eq_none (wellCut : t.WellCut text)
    (outside : t.span.includes place = false) : t.layerAt? place = none := by
  have absent : t.parts.find? (·.span.includes place) = none := by
    rw [List.find?_eq_none]
    intro p member inside
    have bounds := wellCut.tiles.inside p.span (List.mem_map_of_mem member)
    rw [Span.includes_iff] at inside
    rw [← Bool.not_eq_true, Span.includes_iff] at outside
    omega
  rw [layerAt?, absent]
  rfl

/-- No other part than the one that holds a place can be found there. -/
theorem WellCut.layerAt?_of_part (wellCut : t.WellCut text) {p : Part} (member : p ∈ t.parts)
    (inside : p.span.includes place = true) :
    t.layerAt? place = some (.ofPart t.type p.role) := by
  obtain ⟨before, after, parts⟩ := List.append_of_mem member
  have apart := wellCut.tiles.apart
  rw [parts, List.map_append, List.map_cons, List.pairwise_append] at apart
  have skipped : before.find? (·.span.includes place) = none := by
    rw [List.find?_eq_none]
    intro q ahead taken
    have := apart.2.2 q.span (List.mem_map_of_mem ahead) p.span List.mem_cons_self
    rw [Span.includes_iff] at inside taken
    omega
  simp [layerAt?, parts, List.find?_append, skipped, inside]

end Token

/-- The tokens around a place hold each other, from the first to the last. -/
theorem Token.Orderly.around {text : Text} {tokens : List Token}
    (orderly : Token.Orderly text tokens) (place : Nat) :
    (tokens.filter (·.span.includes place)).Pairwise fun outer inner =>
      ∃ content, outer.contentSpan? = some content ∧ content.contains inner.span = true := by
  apply List.Pairwise.imp_of_mem _ (orderly.arranged.filter _)
  intro outer inner first second arranged
  obtain ⟨member, around⟩ := List.mem_filter.mp first
  obtain ⟨member', around'⟩ := List.mem_filter.mp second
  have solid := (orderly.wellCut outer member).solid
  have solid' := (orderly.wellCut inner member').solid
  rw [Span.includes_iff] at around around'
  rcases Token.behind_or_held solid solid' arranged.1 arranged.2 with behind | ⟨held, _⟩
  · omega
  · exact Token.content_of_holds held

namespace Node

mutual

theorem Sound.tokens_within {text : Text} : (n : Node) → n.Sound text →
    ∀ t ∈ n.tokens, t.WellCut text ∧ n.span.contains t.span = true
  | .text _, _ => nofun
  | .token u children, sound => fun t member => by
      rw [Node.tokens, List.mem_cons] at member
      rcases member with rfl | below
      · exact ⟨sound.1, (Span.contains_iff ..).mpr ⟨Nat.le_refl _, Nat.le_refl _⟩⟩
      · obtain ⟨wellCut, n, child, within⟩ := Sound.tokensAll_within children sound.2.1 t below
        obtain ⟨inner, found, tiles⟩ := sound.2.2.1
        have bounds := tiles.inside n.span (List.mem_map_of_mem child)
        have contained := sound.1.solid.content inner found
        rw [Span.contains_iff] at within contained
        refine ⟨wellCut, (Span.contains_iff ..).mpr ?_⟩
        change u.span.start ≤ _ ∧ _ ≤ u.span.stop
        omega

theorem Sound.tokensAll_within {text : Text} : (nodes : List Node) → SoundAll text nodes →
    ∀ t ∈ tokensAll nodes, t.WellCut text ∧ ∃ n ∈ nodes, n.span.contains t.span = true
  | [], _ => nofun
  | n :: later, ⟨here, there⟩ => fun t member => by
      rw [Node.tokensAll, List.mem_append] at member
      rcases member with first | second
      · obtain ⟨wellCut, within⟩ := Sound.tokens_within n here t first
        exact ⟨wellCut, n, List.mem_cons_self, within⟩
      · obtain ⟨wellCut, m, member, within⟩ := Sound.tokensAll_within later there t second
        exact ⟨wellCut, m, List.mem_cons_of_mem n member, within⟩

end

variable {text : Text} {nodes : List Node} {place : Nat}

theorem layersAt_eq_nil (sound : SoundAll text nodes)
    (outside : ∀ n ∈ nodes, n.span.includes place = false) :
    Token.layersAt (tokensAll nodes) place = [] := by
  apply Token.layersAt_eq_nil
  intro t member
  obtain ⟨wellCut, n, present, within⟩ := Sound.tokensAll_within nodes sound t member
  apply wellCut.layerAt?_eq_none
  have apart := outside n present
  rw [Span.contains_iff] at within
  rw [← Bool.not_eq_true, Span.includes_iff] at apart ⊢
  omega

/-- Of nodes that tile a region only the one around a place has layers there. -/
theorem layersAt_of_mem (sound : SoundAll text nodes) {start stop : Nat}
    (tiles : Span.Tiles start stop (nodes.map (·.span))) {n : Node} (member : n ∈ nodes)
    (inside : n.span.includes place = true) :
    Token.layersAt (tokensAll nodes) place = Token.layersAt n.tokens place := by
  obtain ⟨before, after, rfl⟩ := List.append_of_mem member
  have apart := tiles.apart
  rw [List.map_append, List.map_cons, List.pairwise_append, List.pairwise_cons] at apart
  obtain ⟨_, ⟨behind, _⟩, ahead⟩ := apart
  rw [Span.includes_iff] at inside
  rw [soundAll_iff] at sound
  have left : Token.layersAt (tokensAll before) place = [] := by
    apply layersAt_eq_nil ((soundAll_iff text before).mpr fun m first =>
      sound m (List.mem_append_left _ first))
    intro m first
    have := ahead m.span (List.mem_map_of_mem first) n.span List.mem_cons_self
    rw [← Bool.not_eq_true, Span.includes_iff]
    omega
  have right : Token.layersAt (tokensAll after) place = [] := by
    apply layersAt_eq_nil ((soundAll_iff text after).mpr fun m last =>
      sound m (List.mem_append_right _ (List.mem_cons_of_mem n last)))
    intro m last
    have := behind m.span (List.mem_map_of_mem last)
    rw [← Bool.not_eq_true, Span.includes_iff]
    omega
  rw [tokensAll_append, tokensAll, Token.layersAt_append, Token.layersAt_append, left, right,
    List.nil_append, List.append_nil]

end Node

end MarkdownHighlight
