import MarkdownHighlight.Document.Highlight
import MarkdownHighlight.Proofs.Document.Slices
import MarkdownHighlight.Proofs.Terminal.Layers
import MarkdownHighlight.Proofs.Terminal.Screen

/-!
What a terminal shows of a painted document. Every character of the document is
shown in its place; those of the selected lines in the styles of the token parts
that they stand in, layered from the outermost token to the innermost, and the
others in the standard style. The painter carries the layers down the tree and
resets after every run, so each run starts with a plain pen.
-/

namespace MarkdownHighlight.Terminal

def cellsFrom (style : Nat → Style) : Nat → Text → List Cell
  | _, [] => []
  | place, c :: rest => ⟨c, .ofStyle (style place)⟩ :: cellsFrom style (place + c.utf8Size) rest

theorem cellsFrom_append (style : Nat → Style) (place : Nat) (a b : Text) :
    cellsFrom style place (a ++ b) =
      cellsFrom style place a ++ cellsFrom style (place + a.size) b := by
  induction a generalizing place with
  | nil => simp [cellsFrom, Text.size]
  | cons c rest ih => simp [cellsFrom, Text.size, ih, Nat.add_assoc]

theorem cellsFrom_congr {style style' : Nat → Style} (place : Nat) (t : Text)
    (same : ∀ q, place ≤ q → q < place + t.size → style q = style' q) :
    cellsFrom style place t = cellsFrom style' place t := by
  induction t generalizing place with
  | nil => rfl
  | cons c rest ih =>
      have wide := c.utf8Size_pos
      rw [Text.size] at same
      rw [cellsFrom, cellsFrom, same place (Nat.le_refl _) (by omega),
        ih _ fun q low high => same q (by omega) (by omega)]

theorem cellsFrom_const (s : Style) (place : Nat) (t : Text) :
    cellsFrom (fun _ => s) place t = t.map (⟨·, .ofStyle s⟩) := by
  induction t generalizing place with
  | nil => rfl
  | cons c rest ih => rw [cellsFrom, ih, List.map_cons]

theorem map_char_cellsFrom (style : Nat → Style) (place : Nat) (t : Text) :
    (cellsFrom style place t).map (·.char) = t := by
  induction t generalizing place with
  | nil => rfl
  | cons c rest ih => rw [cellsFrom, List.map_cons, ih]

def cellsOf (style : Nat → Style) (e : Excerpt) : List Cell := cellsFrom style e.start e.text

theorem cellsOf_congr {style style' : Nat → Style} (e : Excerpt)
    (same : ∀ q, e.span.includes q = true → style q = style' q) :
    cellsOf style e = cellsOf style' e :=
  cellsFrom_congr e.start e.text fun q low high =>
    same q ((Span.includes_iff ..).mpr ⟨low, high⟩)

theorem splits_cellsOf (text : Text) (style : Nat → Style) :
    Excerpt.Stretch.Splits text (cellsOf style) := by
  refine ⟨fun e none => by rw [cellsOf, none, cellsFrom], fun e place stretch seam low high => ?_⟩
  obtain ⟨left, right, inside, rfl, _⟩ := seam.split stretch.covered low high
  rw [Excerpt.upTo_append inside, Excerpt.startingAt_append inside, cellsOf, inside,
    cellsFrom_append]
  rfl

/-- What a terminal shows of an output, before and after which its pen is plain. -/
def Shows (output : Text) (cells : List Cell) : Prop := ∀ shown : List Cell,
  Screen.feed? ⟨shown, .plain, .outside⟩ output = some ⟨shown ++ cells, .plain, .outside⟩

namespace Shows

variable {output output' : Text} {cells cells' : List Cell}

theorem nil : Shows [] [] := fun shown => by simp [Screen.feed?]

theorem append (first : Shows output cells) (second : Shows output' cells') :
    Shows (output ++ output') (cells ++ cells') := fun shown => by
  rw [Screen.feed?_append, first, Option.bind_some, second, List.append_assoc]

theorem flatMap {α : Type} (items : List α) (form : α → Text) (cells : α → List Cell)
    (shows : ∀ a ∈ items, Shows (form a) (cells a)) :
    Shows (items.flatMap form) (items.flatMap cells) := by
  induction items with
  | nil => exact nil
  | cons a later ih =>
      obtain ⟨here, there⟩ := List.forall_mem_cons.mp shows
      exact here.append (ih there)

theorem text (t : Text) (clean : escapeChar ∉ t) : Shows t (t.map (⟨·, .plain⟩)) :=
  fun _ => Screen.feed?_text t clean

theorem paintText (s : Style) (t : Text) (clean : escapeChar ∉ t) :
    Shows (paintText s t) (t.map (⟨·, .ofStyle s⟩)) :=
  fun _ => Screen.feed?_paintText s t clean

end Shows

def styleOver (base : Style) (tokens : List Token) (place : Nat) : Style :=
  (Token.layersAt tokens place).foldl Style.merge base

/-- Nodes that tile an excerpt show it together as each shows its own source. -/
theorem flatMap_cellsOf {text : Text} {e : Excerpt} {nodes : List Node}
    (sound : Node.SoundAll text nodes) (stretch : e.Stretch text)
    (tiles : Span.Tiles e.start e.stop (nodes.map (·.span))) (base : Style) :
    (nodes.flatMap fun n => cellsOf (styleOver base n.tokens) n.source) =
      cellsOf (styleOver base (Node.tokensAll nodes)) e := by
  have same : (nodes.flatMap fun n => cellsOf (styleOver base n.tokens) n.source) =
      nodes.flatMap fun n => cellsOf (styleOver base (Node.tokensAll nodes)) n.source := by
    apply List.flatMap_congr
    intro n member
    apply cellsOf_congr
    intro place inside
    rw [styleOver, styleOver, Node.layersAt_of_mem sound tiles member inside]
  rw [same, Node.flatMap_splits (splits_cellsOf text _) stretch ((Node.soundAll_iff ..).mp sound)
    tiles]

theorem clean_of_stretch {text : Text} {e : Excerpt} (stretch : e.Stretch text)
    (clean : escapeChar ∉ text) : escapeChar ∉ e.text := by
  obtain ⟨lead, tail, split, _⟩ := stretch.covered
  have split : text = lead ++ e.text ++ tail := split
  intro inside
  rw [split] at clean
  exact clean (List.mem_append_left _ (List.mem_append_right _ inside))

section Part

variable {text : Text} {t : Token} {children : List Node} {p : Part}

/-- Inside a part the token adds the layer of that part to those below it. -/
theorem styleOver_part (wellCut : t.WellCut text) (member : p ∈ t.parts) (base : Style)
    (below : List Token) (place : Nat) (inside : p.span.includes place = true) :
    styleOver base (t :: below) place =
      styleOver (base.merge (.ofPart t.type p.role)) below place := by
  rw [styleOver, Token.layersAt_cons_of_some (wellCut.layerAt?_of_part member inside),
    List.foldl_cons]
  rfl

theorem styleOver_aside (sound : (Node.token t children).Sound text) (member : p ∈ t.parts)
    (aside : p.role ≠ .content ∨ children = []) (style : Style) (place : Nat)
    (inside : p.span.includes place = true) :
    styleOver style (Node.tokensAll children) place = style := by
  obtain ⟨wellCut, below, ⟨inner, found, tiles⟩, _⟩ := sound
  have none : Token.layersAt (Node.tokensAll children) place = [] := by
    apply Node.layersAt_eq_nil below
    intro n child
    rcases aside with role | empty
    · have apart := wellCut.apart_from_content found p member role
      have bounds := tiles.inside n.span (List.mem_map_of_mem child)
      rw [Span.includes_iff] at inside
      rw [← Bool.not_eq_true, Span.includes_iff]
      omega
    · rw [empty] at child
      cases child
  rw [styleOver, none]
  rfl

theorem shows_part (clean : escapeChar ∉ text) (sound : (Node.token t children).Sound text)
    (nested : ∀ style, Shows (paintNodes style children)
      (children.flatMap fun n => cellsOf (styleOver style n.tokens) n.source))
    (member : p ∈ t.parts) (base : Style) :
    Shows (if p.role = .content && !children.isEmpty
        then paintNodes (base.merge (.ofPart t.type p.role)) children
        else paintText (base.merge (.ofPart t.type p.role)) (t.partText p))
      (cellsOf (styleOver base (t :: Node.tokensAll children)) (t.source.slice p.span)) := by
  obtain ⟨stretch, span⟩ := sound.1.part_stretch p member
  rw [cellsOf_congr _ fun q inside => styleOver_part sound.1 member base _ q (span ▸ inside)]
  generalize base.merge (.ofPart t.type p.role) = style
  by_cases filled : p.role = .content ∧ children ≠ []
  · have chosen : (p.role = .content && !children.isEmpty) = true := by simpa using filled
    rw [if_pos chosen]
    obtain ⟨inner, found, tiles⟩ := sound.2.2.1
    have own := sound.1.contentSpan?_of_role p member filled.1
    rw [found] at own
    cases own
    have region : Span.Tiles (t.source.slice p.span).span.start (t.source.slice p.span).span.stop
        (children.map (·.span)) := by rwa [span]
    rw [← flatMap_cellsOf sound.2.1 stretch region]
    exact nested style
  · have chosen : (p.role = .content && !children.isEmpty) = false := by simpa using filled
    rw [chosen]
    have aside : p.role ≠ .content ∨ children = [] := by
      by_cases role : p.role = .content
      · exact Or.inr (not_not.mp fun some => filled ⟨role, some⟩)
      · exact Or.inl role
    rw [cellsOf_congr _ fun q inside =>
      styleOver_aside sound member aside style q (span ▸ inside), cellsOf, cellsFrom_const]
    exact .paintText style _ (clean_of_stretch stretch clean)

end Part

mutual

/-- A sound node, painted on top of a style, shows its source in the style of its layers. -/
theorem shows_paintNode {text : Text} (clean : escapeChar ∉ text) : (n : Node) → n.Sound text →
    ∀ base, Shows (paintNode base n) (cellsOf (styleOver base n.tokens) n.source)
  | .text source, sound => fun base => by
      have shows := Shows.paintText base source.text (clean_of_stretch sound.1 clean)
      rwa [← cellsFrom_const base source.start] at shows
  | .token t children, sound => fun base => by
      have nested := shows_paintNodes clean children sound.2.1
      have parts := Shows.flatMap t.parts _ _ fun p member =>
        shows_part clean sound nested member base
      have whole := (splits_cellsOf text (styleOver base (t :: Node.tokensAll children)))
        |>.flatMap_slices _ sound.1.stretch sound.1.tiles fun s member => by
          obtain ⟨p, inside, rfl⟩ := List.mem_map.mp member
          exact sound.1.seams p inside
      rw [List.flatMap_map] at whole
      rwa [whole] at parts

theorem shows_paintNodes {text : Text} (clean : escapeChar ∉ text) : (nodes : List Node) →
    Node.SoundAll text nodes → ∀ base, Shows (paintNodes base nodes)
      (nodes.flatMap fun n => cellsOf (styleOver base n.tokens) n.source)
  | [], _ => fun _ => .nil
  | n :: later, sound => fun base =>
      (shows_paintNode clean n sound.1 base).append (shows_paintNodes clean later sound.2 base)

end

theorem paint_shows (text : Text) (clean : escapeChar ∉ text) :
    ∃ painted nodes, paint text = .ok painted ∧ tokenize text = .ok nodes ∧
      Token.Orderly text (Node.tokensAll nodes) ∧
      Shows painted (cellsFrom (fun place =>
        .layered (Token.layersAt (Node.tokensAll nodes) place)) 0 text) := by
  obtain ⟨nodes, made, sound, tiles, orderly⟩ :=
    tokenizeWith_sound Grammar.markdown Grammar.markdown_lawful text
  have made : tokenize text = .ok nodes := made
  refine ⟨paintNodes .plain nodes, nodes, by rw [paint, made]; rfl, made, orderly, ?_⟩
  have sounds := (Node.soundAll_iff ..).mpr sound
  have region : Span.Tiles text.whole.start text.whole.stop (nodes.map (·.span)) := by
    have stop : text.whole.stop = text.size := by simp [Excerpt.stop, Text.whole]
    rwa [stop]
  have shows := shows_paintNodes clean nodes sounds .plain
  rwa [flatMap_cellsOf sounds text.whole_stretch region] at shows

/-- A document is shown faithfully: the terminal shows its characters and no others,
in their order; a character of the selected lines in the layered styles of the parts
that hold it, from the outermost token to the innermost, every other character in
the standard style; and at the end the pen is plain. -/
theorem paintDocument_shows (n : Narrowing) (text : Text) (viewport? : Option Viewport)
    (clean : escapeChar ∉ text) :
    let slice := n.select text.lines viewport?
    let before := linesBefore id (text.lines.take slice.start)
    let after := linesAfter id (text.lines.drop (slice.stop + 1))
    ∃ painted nodes cells, paintDocument n text viewport? = .ok painted ∧
      tokenize slice.content = .ok nodes ∧
      Screen.blank.feed? painted = some ⟨cells, .plain, .outside⟩ ∧
      cells.map (·.char) = text ∧
      cells = before.map (⟨·, .plain⟩) ++
        cellsFrom (fun place => .layered (Token.layersAt (Node.tokensAll nodes) place)) 0
          slice.content ++ after.map (⟨·, .plain⟩) ∧
      (∀ place, ((Node.tokensAll nodes).filter (·.span.includes place)).Pairwise
        fun outer inner => ∃ content, outer.contentSpan? = some content ∧
          content.contains inner.span = true) ∧
      (∀ layers, Style.Combines layers (.layered layers)) ∧ Function.Injective Pen.ofStyle := by
  intro slice before after
  have whole : text = before ++ slice.content ++ after := n.text_eq text viewport?
  rw [whole, List.mem_append, List.mem_append, not_or, not_or] at clean
  obtain ⟨⟨cleanBefore, cleanSlice⟩, cleanAfter⟩ := clean
  obtain ⟨middle, nodes, painted, made, orderly, shows⟩ := paint_shows slice.content cleanSlice
  have around := ((Shows.text before cleanBefore).append shows).append (.text after cleanAfter)
  refine ⟨_, nodes, _, ?_, made, around [], ?_, rfl, orderly.around,
    Style.combines_layered, Pen.ofStyle_injective⟩
  · rw [paintDocument]
    split
    · rename_i full
      -- There is nothing around a slice that is the whole document.
      rw [LineSlice.isFull, Bool.and_eq_true, beq_iff_eq, decide_eq_true_eq] at full
      have noneBefore : before = [] := by
        simp only [before, slice, full.1, List.take_zero, linesBefore, List.flatMap_nil]
      have noneAfter : after = [] := by
        simp only [after, slice, List.drop_eq_nil_of_le full.2, linesAfter, List.flatMap_nil]
      rw [noneBefore, noneAfter, List.nil_append, List.append_nil] at whole ⊢
      exact (congrArg paint whole).trans painted
    · rw [painted]
      rfl
  · rw [List.nil_append, List.map_append, List.map_append, map_char_cellsFrom, List.map_map,
      List.map_map, whole]
    simp [Function.comp_def]

theorem paintDocument_shows_narrowed :
    let text : Text := "*a*\n# *é* `*`\n```\nb".toList
    let slice := (⟨0, 0⟩ : Narrowing).select text.lines (some ⟨1, 1⟩)
    escapeChar ∉ text ∧ ∃ painted nodes cells,
      paintDocument ⟨0, 0⟩ text (some ⟨1, 1⟩) = .ok painted ∧ tokenize slice.content = .ok nodes ∧
      Screen.blank.feed? painted = some ⟨cells, .plain, .outside⟩ ∧ cells.map (·.char) = text ∧
      cells[6]? = some ⟨'*', { color? := some 8, bold := true }⟩ ∧
      cells[7]? = some ⟨'é', { color? := some 5, bold := true, italic := true }⟩ := by
  intro text slice
  have clean : escapeChar ∉ text := by decide
  obtain ⟨painted, nodes, cells, made, read, shown, chars, styled, _⟩ :=
    paintDocument_shows ⟨0, 0⟩ text (some ⟨1, 1⟩) clean
  have looks : ((paintDocument ⟨0, 0⟩ text (some ⟨1, 1⟩)).toOption.bind Screen.blank.feed?).map
      (fun s => (s.cells[6]?, s.cells[7]?)) =
        some (some ⟨'*', { color? := some 8, bold := true }⟩,
          some ⟨'é', { color? := some 5, bold := true, italic := true }⟩) := by
    decide +kernel
  simp only [made, Except.toOption, Option.bind_some, shown, Option.map_some, Option.some.injEq,
    Prod.mk.injEq] at looks
  exact ⟨clean, painted, nodes, cells, made, read, shown, chars, looks⟩

end MarkdownHighlight.Terminal
