import Mathlib.Data.List.Basic
import Mathlib.Data.List.TakeDrop
import MarkdownHighlight.Proofs.Claim.Scan
import MarkdownHighlight.Token.Tree

/-!
The trees of a text. A node is sound when it stands in the text between two
seams, and the nodes below it tile its content. Filling the gaps between sound
nodes and placing a token before sound trees give sound trees again.
-/

namespace MarkdownHighlight

/-- An excerpt of a text that begins and ends at a seam. -/
structure Excerpt.Stretch (text : Text) (e : Excerpt) : Prop where
  covered : text.whole.Covers e
  first : SeamAt text e.start
  last : SeamAt text e.stop

/-- At a seam inside an excerpt the two sides can be escaped apart. -/
theorem SeamAt.split {text : Text} {e : Excerpt} {place : Nat} (seam : SeamAt text place)
    (covered : text.whole.Covers e) (low : e.start ≤ place) (high : place ≤ e.stop) :
    ∃ left right, e.text = left ++ right ∧ place = e.start + left.size ∧
      Markup.seam left.getLast? right.head? = true := by
  obtain ⟨c, whole, rfl, seamed⟩ := seam
  obtain ⟨lead, tail, split, start⟩ := covered
  have same : lead ++ (e.text ++ tail) = c.before.reverse ++ c.rest := by
    rw [← List.append_assoc, ← split]
    exact whole.symm
  have size : Text.size c.before.reverse = c.offset := by rw [Cursor.size_reverse, c.offset_eq]
  have begins : e.start = Text.size lead := by simpa [Text.whole] using start
  -- The cursor of the seam cuts the whole text; both cuts of the excerpt are compared with it.
  obtain ⟨left, front, rest⟩ := Text.append_split lead _ _ _ same (by omega)
  have width := congrArg Text.size front
  rw [Text.size_append] at width
  rw [Excerpt.stop] at high
  obtain ⟨right, inside, back⟩ := Text.append_split left c.rest e.text tail rest.symm (by omega)
  refine ⟨left, right, inside, by omega, ?_⟩
  have previous : c.previous? = (lead ++ left).getLast? := by
    rw [← front, List.getLast?_reverse]
    rfl
  rw [Cursor.seam, previous, Cursor.next?, back] at seamed
  cases right with
  | nil => simp [Markup.seam]
  | cons ch later =>
      by_cases none : left = []
      · simp [none, Markup.seam]
      · rw [List.getLast?_append, List.getLast?_eq_some_getLast none] at seamed
        rw [List.getLast?_eq_some_getLast none]
        exact seamed

theorem SeamAt.cutAt {text : Text} {e : Excerpt} {place : Nat} (seam : SeamAt text place)
    (covered : text.whole.Covers e) (low : e.start ≤ place) (high : place ≤ e.stop) :
    e.CutAt place := by
  obtain ⟨left, right, inside, size, _⟩ := seam.split covered low high
  exact ⟨left, right, inside, size⟩

namespace Excerpt.Stretch

variable {text : Text} {e : Excerpt} {place : Nat}

theorem upTo (stretch : e.Stretch text) (seam : SeamAt text place) (low : e.start ≤ place)
    (high : place ≤ e.stop) : (e.upTo place).Stretch text ∧ (e.upTo place).stop = place := by
  have cut := seam.cutAt stretch.covered low high
  have stop := cut.split.2
  refine ⟨⟨stretch.covered.trans cut.covers_upTo, stretch.first, ?_⟩, stop⟩
  rw [stop]
  exact seam

theorem startingAt (stretch : e.Stretch text) (seam : SeamAt text place) (low : e.start ≤ place)
    (high : place ≤ e.stop) :
    (e.startingAt place).Stretch text ∧ (e.startingAt place).stop = e.stop := by
  have cut := seam.cutAt stretch.covered low high
  have stop := cut.startingAt_stop
  refine ⟨⟨stretch.covered.trans cut.covers_startingAt, seam, ?_⟩, stop⟩
  rw [stop]
  exact stretch.last

theorem slice (stretch : e.Stretch text) {s : Span} (first : SeamAt text s.start)
    (last : SeamAt text s.stop) (low : e.start ≤ s.start) (order : s.start ≤ s.stop)
    (high : s.stop ≤ e.stop) : (e.slice s).Stretch text ∧ (e.slice s).span = s := by
  obtain ⟨behind, stop⟩ := stretch.startingAt first low (by omega)
  obtain ⟨between, stop'⟩ := behind.upTo last order (by omega)
  exact ⟨between, Span.eq_of_ends _ _ rfl stop'⟩

def Splits {Item : Type} (text : Text) (f : Excerpt → List Item) : Prop :=
  (∀ e : Excerpt, e.text = [] → f e = []) ∧ ∀ (e : Excerpt) (place : Nat), e.Stretch text →
    SeamAt text place → e.start ≤ place → place ≤ e.stop →
    f e = f (e.upTo place) ++ f (e.startingAt place)

theorem Splits.flatMap_slices {Item : Type} {f : Excerpt → List Item} (splits : Splits text f)
    (spans : List Span) (stretch : e.Stretch text) (tiles : Span.Tiles e.start e.stop spans)
    (seams : ∀ s ∈ spans, SeamAt text s.start ∧ SeamAt text s.stop) :
    (spans.flatMap fun s => f (e.slice s)) = f e := by
  induction spans generalizing e with
  | nil =>
      have none : e.text = [] := by
        apply Text.eq_nil_of_size_eq_zero
        have : e.start = e.stop := tiles
        rw [Excerpt.stop] at this
        omega
      rw [splits.1 e none]
      rfl
  | cons s later ih =>
      obtain ⟨start, order, rest⟩ := tiles
      have high := rest.le
      obtain ⟨⟨_, last⟩, seamsLater⟩ := List.forall_mem_cons.mp seams
      have low : e.start ≤ s.stop := by omega
      obtain ⟨behind, stop⟩ := stretch.startingAt last low high
      have first : e.slice s = e.upTo s.stop := by
        simp [Excerpt.slice, Excerpt.startingAt, start]
      -- The later slices are cut from the remainder here, but from the whole excerpt in the claim.
      have others : ∀ s' ∈ later, (e.startingAt s.stop).slice s' = e.slice s' := by
        intro s' member
        obtain ⟨left, right⟩ := seamsLater s' member
        have bounds := rest.inside s' member
        have inner := behind.slice left right bounds.1 bounds.2.1 (by omega)
        have outer := stretch.slice left right (by omega) bounds.2.1 bounds.2.2
        exact inner.1.covered.eq_of_span outer.1.covered (inner.2.trans outer.2.symm)
      have tail := ih behind (by rw [stop]; exact rest) seamsLater
      have same : (later.flatMap fun s' => f (e.slice s')) =
          later.flatMap fun s' => f ((e.startingAt s.stop).slice s') := by
        apply List.flatMap_congr
        intro s' member
        rw [others s' member]
      rw [List.flatMap_cons, first, splits.2 e s.stop stretch last low high, same, tail]

/-- What can be made of a text piece by piece, when the pieces are cut at seams. -/
def Piecewise (text : Text) (f : Text → Text) : Prop :=
  f [] = [] ∧ ∀ (e : Excerpt) (place : Nat), e.Stretch text → SeamAt text place →
    e.start ≤ place → place ≤ e.stop →
    f e.text = f (e.upTo place).text ++ f (e.startingAt place).text

theorem Piecewise.splits {f : Text → Text} (piecewise : Piecewise text f) :
    Splits text fun e => f e.text :=
  ⟨fun e none => by simp only [none, piecewise.1], piecewise.2⟩

theorem flatMap_slices {f : Text → Text} (piecewise : Piecewise text f) (spans : List Span)
    (stretch : e.Stretch text) (tiles : Span.Tiles e.start e.stop spans)
    (seams : ∀ s ∈ spans, SeamAt text s.start ∧ SeamAt text s.stop) :
    (spans.flatMap fun s => f (e.slice s).text) = f e.text :=
  piecewise.splits.flatMap_slices spans stretch tiles seams

theorem piecewise_id (text : Text) : Piecewise text id := by
  refine ⟨rfl, fun e place stretch seam low high => ?_⟩
  exact (seam.cutAt stretch.covered low high).split.1

end Excerpt.Stretch

namespace Token.WellCut

variable {text : Text} {t : Token}

theorem stop_le (wellCut : t.WellCut text) : t.span.stop ≤ text.size := wellCut.covered.stop_le

theorem stretch (wellCut : t.WellCut text) : t.source.Stretch text where
  covered := wellCut.covered
  first := by
    obtain ⟨before, inner, after, parts, _⟩ := wellCut.content
    obtain ⟨p, later, split⟩ := List.exists_cons_of_ne_nil (l := t.parts) (by simp [parts])
    have tiles := wellCut.tiles
    rw [split, List.map_cons] at tiles
    have start : p.span.start = t.source.start := tiles.1
    have seam := (wellCut.seams p (by simp [split])).1
    rwa [start] at seam
  last := by
    obtain ⟨before, inner, after, parts, _⟩ := wellCut.content
    have some : t.parts ≠ [] := by simp [parts]
    have split := List.dropLast_concat_getLast some
    have tiles := wellCut.tiles
    rw [← split, List.map_append, Span.tiles_append] at tiles
    obtain ⟨middle, _, _, _, stop⟩ := tiles
    have seam := (wellCut.seams _ (List.getLast_mem some)).2
    have stop : (t.parts.getLast some).span.stop = t.source.stop := stop
    rwa [stop] at seam

theorem part_stretch (wellCut : t.WellCut text) (p : Part) (member : p ∈ t.parts) :
    (t.source.slice p.span).Stretch text ∧ (t.source.slice p.span).span = p.span := by
  have bounds := wellCut.tiles.inside p.span (List.mem_map_of_mem member)
  obtain ⟨first, last⟩ := wellCut.seams p member
  exact wellCut.stretch.slice first last bounds.1 bounds.2.1 bounds.2.2

theorem content_stretch (wellCut : t.WellCut text) : ∃ inner, ⟨.content, inner⟩ ∈ t.parts ∧
    t.contentSpan? = some inner ∧ (t.source.slice inner).Stretch text ∧
    (t.source.slice inner).span = inner := by
  obtain ⟨before, inner, after, parts, found⟩ := wellCut.contentSpan?_eq
  have member : ⟨.content, inner⟩ ∈ t.parts := by simp [parts]
  exact ⟨inner, member, found, wellCut.part_stretch _ member⟩

end Token.WellCut

namespace Node

mutual

/-- A node that stands in the text, with everything below it. -/
def Sound (text : Text) : Node → Prop
  | .text source => source.Stretch text ∧ source.text ≠ []
  | .token t children => t.WellCut text ∧ SoundAll text children ∧
      (∃ inner, t.contentSpan? = some inner ∧
        Span.Tiles inner.start inner.stop (children.map (·.span))) ∧
      (t.type.isOpaque = true → ∀ n ∈ children, n.type = .text)

def SoundAll (text : Text) : List Node → Prop
  | [] => True
  | n :: later => n.Sound text ∧ SoundAll text later

end

theorem soundAll_iff (text : Text) (nodes : List Node) :
    SoundAll text nodes ↔ ∀ n ∈ nodes, n.Sound text := by
  induction nodes with
  | nil => simp [SoundAll]
  | cons n later ih => simp [SoundAll, ih]

theorem Sound.stretch {text : Text} {n : Node} (sound : n.Sound text) :
    n.source.Stretch text ∧ n.source.text ≠ [] := by
  cases n with
  | text source => exact sound
  | token t children => exact ⟨sound.1.stretch, sound.1.nonempty⟩

theorem Sound.nonempty {text : Text} {n : Node} (sound : n.Sound text) :
    n.span.start < n.span.stop := by
  have := Text.size_pos_of_ne_nil _ sound.stretch.2
  simp only [Node.span, Excerpt.span, Excerpt.stop]
  omega

def Before (a b : Node) : Prop := a.span.stop ≤ b.span.start

def gap (e : Excerpt) : List Node := if e.isEmpty then [] else [.text e]

theorem fillGaps_nil (region : Excerpt) : fillGaps region [] = gap region := by
  rw [fillGaps, gap]

theorem fillGaps_cons (region : Excerpt) (n : Node) (later : List Node) :
    fillGaps region (n :: later) = gap (region.upTo n.span.start) ++
      n :: fillGaps (region.startingAt n.span.stop) later := by
  simp only [fillGaps, gap]
  split <;> rfl

theorem gap_sound {text : Text} {e : Excerpt} (stretch : e.Stretch text) :
    (∀ n ∈ gap e, n.Sound text) ∧ Span.Tiles e.start e.stop ((gap e).map (·.span)) := by
  cases some : e.text with
  | nil => simp [gap, Excerpt.isEmpty, some, Span.Tiles, Excerpt.stop, Text.size]
  | cons ch later =>
      have full : gap e = [.text e] := by simp [gap, Excerpt.isEmpty, some]
      rw [full]
      refine ⟨?_, rfl, Nat.le_add_right .., rfl⟩
      intro n only
      rw [List.mem_singleton.mp only]
      exact ⟨stretch, by simp [some]⟩

theorem type_of_gap (e : Excerpt) : ∀ n ∈ gap e, n.type = .text := by
  intro n member
  rw [gap] at member
  split at member
  · cases member
  · rw [List.mem_singleton.mp member]
    rfl

/-- The first of some nodes cuts a region into what stands before it and what remains for
the others. -/
theorem region_cut {text : Text} {region : Excerpt} {n : Node} {later : List Node}
    (stretch : region.Stretch text) (here : n.Sound text) (ahead : ∀ m ∈ later, Before n m)
    (inside : ∀ m ∈ n :: later, region.span.contains m.span = true) :
    ((region.upTo n.span.start).Stretch text ∧ (region.upTo n.span.start).stop = n.span.start) ∧
      region.CutAt n.span.stop ∧ (region.startingAt n.span.stop).Stretch text ∧
      (region.startingAt n.span.stop).span = ⟨n.span.stop, region.stop⟩ ∧
      ∀ m ∈ later, (region.startingAt n.span.stop).span.contains m.span = true := by
  obtain ⟨within, insideLater⟩ := List.forall_mem_cons.mp inside
  rw [Span.contains_iff] at within
  have low : region.start ≤ n.span.start := within.1
  have high : n.span.stop ≤ region.stop := within.2
  have order := here.nonempty
  have first : SeamAt text n.span.start := here.stretch.1.first
  have last : SeamAt text n.span.stop := here.stretch.1.last
  obtain ⟨behind, behindStop⟩ := stretch.startingAt last (by omega) high
  have remains : (region.startingAt n.span.stop).span = ⟨n.span.stop, region.stop⟩ := by
    rw [Excerpt.span, behindStop]
    rfl
  refine ⟨stretch.upTo first low (by omega), last.cutAt stretch.covered (by omega) high, behind,
    remains, fun m after => ?_⟩
  rw [remains, Span.contains_iff]
  exact ⟨ahead m after, ((Span.contains_iff ..).mp (insideLater m after)).2⟩

/-- With text in the gaps, sound nodes in a region tile the region. -/
theorem fillGaps_sound {text : Text} {region : Excerpt} {nodes : List Node}
    (stretch : region.Stretch text) (sound : ∀ n ∈ nodes, n.Sound text)
    (apart : nodes.Pairwise Before)
    (inside : ∀ n ∈ nodes, region.span.contains n.span = true) :
    (∀ n ∈ fillGaps region nodes, n.Sound text) ∧
      Span.Tiles region.start region.stop ((fillGaps region nodes).map (·.span)) := by
  induction nodes generalizing region with
  | nil =>
      rw [fillGaps_nil]
      exact gap_sound stretch
  | cons n later ih =>
      obtain ⟨here, others⟩ := List.forall_mem_cons.mp sound
      obtain ⟨ahead, apart⟩ := List.pairwise_cons.mp apart
      obtain ⟨⟨before, beforeStop⟩, _, behind, remains, remaining⟩ :=
        region_cut stretch here ahead inside
      obtain ⟨filled, tiles⟩ := ih behind others apart remaining
      obtain ⟨filledGap, tilesGap⟩ := gap_sound before
      have behindStop : (region.startingAt n.span.stop).stop = region.stop :=
        congrArg Span.stop remains
      rw [behindStop] at tiles
      rw [beforeStop] at tilesGap
      rw [fillGaps_cons, List.map_append, Span.tiles_append]
      constructor
      · intro m member
        rcases List.mem_append.mp member with first | other
        · exact filledGap m first
        · exact List.forall_mem_cons.mpr ⟨here, filled⟩ m other
      · exact ⟨n.span.start, tilesGap, rfl, Nat.le_of_lt here.nonempty, tiles⟩

mutual

def tokens : Node → List Token
  | .text _ => []
  | .token t children => t :: tokensAll children

def tokensAll : List Node → List Token
  | [] => []
  | n :: later => n.tokens ++ tokensAll later

end

theorem tokensAll_append (first second : List Node) :
    tokensAll (first ++ second) = tokensAll first ++ tokensAll second := by
  induction first with
  | nil => rfl
  | cons n later ih => simp [tokensAll, ih]

theorem tokensAll_gap (e : Excerpt) : tokensAll (gap e) = [] := by
  rw [gap]
  split <;> rfl

theorem tokensAll_fillGaps (region : Excerpt) (nodes : List Node) :
    tokensAll (fillGaps region nodes) = tokensAll nodes := by
  induction nodes generalizing region with
  | nil =>
      rw [fillGaps_nil, tokensAll_gap]
      rfl
  | cons n later ih =>
      rw [fillGaps_cons, tokensAll_append, tokensAll_gap, List.nil_append, tokensAll, ih, tokensAll]

end Node

namespace Token

/-- Of two tokens that nest, the later one lies behind the earlier or inside it. -/
theorem behind_or_held {t u : Token} (first : t.Solid) (second : u.Solid)
    (order : t.span.precedes u.span = true) (nests : t.nestsWith u = true) :
    t.span.stop ≤ u.span.start ∨ (t.holds u = true ∧ t.span.contains u.span = true) := by
  have nonempty := second.nonempty
  rw [Span.precedes_iff] at order
  -- The earlier of the two cannot lie inside the later one.
  rcases (nestsWith_iff t u).mp nests with apart | ⟨_, outside | inside⟩
  · rw [Span.disjoint_iff] at apart
    omega
  · exact Or.inr ⟨outside, first.contains_of_holds outside⟩
  · have around := second.contains_of_holds inside
    rw [Span.contains_iff] at around
    omega

def Arranged (a b : Token) : Prop := a.span.precedes b.span = true ∧ a.nestsWith b = true

structure Orderly (text : Text) (ts : List Token) : Prop where
  wellCut : ∀ t ∈ ts, t.WellCut text
  arranged : ts.Pairwise Arranged

theorem Orderly.compare {text : Text} {ts : List Token} (orderly : Orderly text ts) :
    ∀ a ∈ ts, ∀ b ∈ ts, a = b ∨ Arranged a b ∨ Arranged b a :=
  List.Pairwise.forall_of_forall_of_flip (fun _ _ => Or.inl rfl)
    (orderly.arranged.imp fun first => Or.inr (Or.inl first))
    (orderly.arranged.imp fun first => Or.inr (Or.inr first))

theorem Orderly.tail {text : Text} {t : Token} {later : List Token}
    (orderly : Orderly text (t :: later)) : Orderly text later :=
  ⟨fun u inside => orderly.wellCut u (List.mem_cons_of_mem t inside),
    (List.pairwise_cons.mp orderly.arranged).2⟩

end Token

namespace Node

structure Grown (text : Text) (ts : List Token) (nodes : List Node) : Prop where
  sound : ∀ n ∈ nodes, n.Sound text
  apart : nodes.Pairwise Before
  roots : ∀ n ∈ nodes, ∃ t ∈ ts, ∃ children, n = .token t children
  tokens : tokensAll nodes = ts

theorem Grown.inside {text : Text} {ts : List Token} {nodes : List Node}
    (grown : Grown text ts nodes) : ∀ n ∈ nodes, text.whole.span.contains n.span = true :=
  fun n member => (Span.contains_iff ..).mpr (grown.sound n member).stretch.1.covered.bounds

/-- Where what satisfies a condition comes first, cutting at the first element
that fails it is filtering. -/
theorem span_of_downward {α : Type} (p : α → Bool) (l : List α)
    (downward : l.Pairwise fun a b => p b = true → p a = true) :
    l.span p = (l.filter p, l.filter (!p ·)) := by
  rw [List.span_eq_takeWhile_dropWhile]
  induction l with
  | nil => rfl
  | cons a later ih =>
      obtain ⟨ahead, rest⟩ := List.pairwise_cons.mp downward
      cases here : p a with
      | true =>
          obtain ⟨taken, dropped⟩ := Prod.mk.inj (ih rest)
          simp [here, taken, dropped]
      | false =>
          have none : ∀ b ∈ later, p b = false := by
            intro b after
            rw [Bool.eq_false_iff]
            intro satisfied
            rw [ahead b after satisfied] at here
            cases here
          have filtered : later.filter p = [] := List.filter_eq_nil_iff.mpr (by simpa using none)
          have kept : later.filter (!p ·) = later := List.filter_eq_self.mpr (by simpa using none)
          simp [here, filtered, kept]

section Place

variable {text : Text} {t : Token} {ts : List Token} {nodes : List Node}

theorem root_behind_or_held (orderly : Token.Orderly text (t :: ts))
    (grown : Grown text ts nodes) (n : Node) (member : n ∈ nodes) :
    (t.span.stop ≤ n.span.start ∧ t.span.contains n.span = false) ∨
      (t.span.contains n.span = true ∧ t.type.isOpaque = false ∧
        ∃ inner, t.contentSpan? = some inner ∧ inner.contains n.span = true) := by
  obtain ⟨u, present, children, rfl⟩ := grown.roots n member
  obtain ⟨order, nests⟩ := (List.pairwise_cons.mp orderly.arranged).1 u present
  have solid := (orderly.wellCut t List.mem_cons_self).solid
  have solid' := (orderly.wellCut u (List.mem_cons_of_mem t present)).solid
  rcases Token.behind_or_held solid solid' order nests with behind | ⟨held, contained⟩
  · refine Or.inl ⟨behind, ?_⟩
    have := solid'.nonempty
    change t.span.contains u.span = false
    rw [Bool.eq_false_iff, ne_eq, Span.contains_iff]
    omega
  · obtain ⟨inner, found, inside⟩ := Token.content_of_holds held
    rw [Token.holds, Bool.and_eq_true, Bool.not_eq_true'] at held
    exact Or.inr ⟨contained, held.1, inner, found, inside⟩

theorem span_contains (orderly : Token.Orderly text (t :: ts)) (grown : Grown text ts nodes) :
    (nodes.span fun n => t.span.contains n.span) =
      (nodes.filter fun n => t.span.contains n.span,
        nodes.filter fun n => !t.span.contains n.span) := by
  apply span_of_downward _ nodes
  apply grown.apart.imp_of_mem
  intro a b first second before within
  rcases root_behind_or_held orderly grown a first with ⟨behind, _⟩ | ⟨contained, _⟩
  · have := (grown.sound a first).nonempty
    have := (grown.sound b second).nonempty
    rw [Span.contains_iff] at within
    unfold Before at before
    omega
  · exact contained

theorem held_in_content (orderly : Token.Orderly text (t :: ts)) (grown : Grown text ts nodes) :
    ∃ region, t.content? = some region ∧ t.contentSpan? = some region.span ∧
      region.Stretch text ∧ ∀ n ∈ nodes.filter fun n => t.span.contains n.span,
        n ∈ nodes ∧ t.type.isOpaque = false ∧ region.span.contains n.span = true := by
  obtain ⟨inner, _, found, stretch, span⟩ :=
    (orderly.wellCut t List.mem_cons_self).content_stretch
  have content : t.content? = some (t.source.slice inner) := by rw [Token.content?, found]; rfl
  refine ⟨t.source.slice inner, content, span.symm ▸ found, stretch, fun n member => ?_⟩
  obtain ⟨present, contained⟩ := List.mem_filter.mp member
  rcases root_behind_or_held orderly grown n present with ⟨_, other⟩ | ⟨_, open', _, same, within⟩
  · rw [contained] at other
    cases other
  · rw [found] at same
    rw [span]
    exact ⟨present, open', Option.some.inj same ▸ within⟩

theorem place_grown (orderly : Token.Orderly text (t :: ts)) (grown : Grown text ts nodes) :
    Grown text (t :: ts) (place t nodes) := by
  have wellCut := orderly.wellCut t List.mem_cons_self
  obtain ⟨region, content, found, stretch, held⟩ := held_in_content orderly grown
  have behind : ∀ n ∈ nodes.filter fun n => !t.span.contains n.span,
      n ∈ nodes ∧ t.span.stop ≤ n.span.start := by
    intro n member
    obtain ⟨present, outside⟩ := List.mem_filter.mp member
    rcases root_behind_or_held orderly grown n present with ⟨after, _⟩ | ⟨contained, _⟩
    · exact ⟨present, after⟩
    · simp [contained] at outside
  -- What lies inside the token lies in its content, so it fills the content and nothing else.
  obtain ⟨filled, tiles⟩ := fillGaps_sound stretch (fun n member => grown.sound n (held n member).1)
    (grown.apart.filter _) (fun n member => (held n member).2.2)
  have split : tokensAll (nodes.filter fun n => t.span.contains n.span) ++
      tokensAll (nodes.filter fun n => !t.span.contains n.span) = ts := by
    have parts := congrArg (fun s => s.1 ++ s.2) (span_contains orderly grown)
    rw [List.span_eq_takeWhile_dropWhile] at parts
    rw [← tokensAll_append, ← parts, List.takeWhile_append_dropWhile, grown.tokens]
  have rooted : (Node.token t (fillGaps region
      (nodes.filter fun n => t.span.contains n.span))).Sound text := by
    refine ⟨wellCut, (soundAll_iff ..).mpr filled, ⟨region.span, found, tiles⟩, fun code => ?_⟩
    have none : (nodes.filter fun n => t.span.contains n.span) = [] := by
      apply List.eq_nil_iff_forall_not_mem.mpr
      intro n member
      rw [(held n member).2.1] at code
      cases code
    rw [none, fillGaps_nil]
    exact type_of_gap _
  simp only [place, span_contains orderly grown, content]
  constructor
  case sound =>
    exact List.forall_mem_cons.mpr ⟨rooted, fun n member => grown.sound n (behind n member).1⟩
  case apart =>
    exact List.pairwise_cons.mpr ⟨fun n member => (behind n member).2, grown.apart.filter _⟩
  case roots =>
    refine List.forall_mem_cons.mpr ⟨⟨t, List.mem_cons_self, _, rfl⟩, ?_⟩
    intro n member
    obtain ⟨u, present, children, same⟩ := grown.roots n (behind n member).1
    exact ⟨u, List.mem_cons_of_mem t present, children, same⟩
  case tokens =>
    rw [tokensAll, tokens, tokensAll_fillGaps, List.cons_append, split]

end Place

theorem nest_grown {text : Text} {ts : List Token} (orderly : Token.Orderly text ts) :
    Grown text ts (nest ts) := by
  induction ts with
  | nil => exact ⟨nofun, List.Pairwise.nil, nofun, rfl⟩
  | cons t later ih =>
      exact place_grown orderly (ih orderly.tail)

end Node

theorem Text.whole_stretch (text : Text) : text.whole.Stretch text where
  covered := .refl _
  first := ⟨.atStart text, rfl, rfl, by simp [Cursor.seam, Markup.seam, Cursor.previous?,
    Cursor.atStart]⟩
  last := by
    obtain ⟨c, walk, ended⟩ := (Cursor.atStart text).exists_walk text [] (by simp [Cursor.atStart])
    refine ⟨c, by rw [walk.text]; rfl, ?_, by simp [Cursor.seam, Markup.seam, Cursor.next?, ended]⟩
    rw [walk.offset]
    rfl

theorem ClaimIndex.Mirrors.orderly {index : ClaimIndex} {accepted : List Token} {text : Text}
    (mirrors : index.Mirrors accepted) (wellCut : ∀ t ∈ accepted, t.WellCut text) :
    Token.Orderly text index.tokens where
  wellCut := fun t present => wellCut t (mirrors.same.mem_iff.mp present)
  arranged := mirrors.valid.arranged

/-- What the tokens of a tree are taken from: the accepted tokens in reading order. -/
theorem tokenizeWith_grown (patterns : List Pattern) (lawful : ∀ p ∈ patterns, p.Lawful)
    (text : Text) : ∃ ts, ts.Perm (Plain.accept patterns text) ∧ Token.Orderly text ts ∧
      Node.Grown text ts (Node.nest ts) ∧
      tokenizeWith patterns text = .ok (Node.fillGaps text.whole (Node.nest ts)) := by
  obtain ⟨index, claimed, mirrors⟩ := claimAll_mirrors patterns lawful text
  have sourced := (Plain.accept_nested patterns lawful text).sourced
  have orderly : Token.Orderly text index.tokens := mirrors.orderly fun t present => by
    obtain ⟨p, _, c, m, rfl, _, reads⟩ := sourced t present
    exact reads.wellCut
  refine ⟨index.tokens, mirrors.same, orderly, Node.nest_grown orderly, ?_⟩
  rw [tokenizeWith, claimed]
  rfl

/-- The tree of a text: sound nodes that tile it, with the accepted tokens in them. -/
theorem tokenizeWith_sound (patterns : List Pattern) (lawful : ∀ p ∈ patterns, p.Lawful)
    (text : Text) : ∃ nodes, tokenizeWith patterns text = .ok nodes ∧
      (∀ n ∈ nodes, n.Sound text) ∧ Span.Tiles 0 text.size (nodes.map (·.span)) ∧
      Token.Orderly text (Node.tokensAll nodes) := by
  obtain ⟨ts, _, orderly, grown, made⟩ := tokenizeWith_grown patterns lawful text
  obtain ⟨sound, tiles⟩ :=
    Node.fillGaps_sound text.whole_stretch grown.sound grown.apart grown.inside
  refine ⟨_, made, sound, ?_, ?_⟩
  · have stop : text.whole.stop = text.size := by simp [Excerpt.stop, Text.whole]
    rw [stop] at tiles
    exact tiles
  · rw [Node.tokensAll_fillGaps, grown.tokens]
    exact orderly

end MarkdownHighlight
