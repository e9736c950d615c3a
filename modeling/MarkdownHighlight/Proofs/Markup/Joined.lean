import MarkdownHighlight.Proofs.Claim.Joined
import MarkdownHighlight.Proofs.Document.Slices
import MarkdownHighlight.Proofs.Token.Shift

/-!
The tree and the markup of two texts that are joined by a newline. The trees
stand one behind the other, the gap that holds the newline is escaped on both
sides of it, and so the markup is that of the two texts with a newline between.
-/

namespace MarkdownHighlight

open Text (newline)

namespace Node

variable {first second : List Node}

theorem place_append (t : Token)
    (outside : ∀ n ∈ second, t.span.contains n.span = false) :
    place t (first ++ second) = place t first ++ second := by
  have cut : ((first ++ second).span fun n => t.span.contains n.span) =
      ((first.span fun n => t.span.contains n.span).1,
        (first.span fun n => t.span.contains n.span).2 ++ second) := by
    simp only [List.span_eq_takeWhile_dropWhile]
    induction first with
    | nil =>
        cases second with
        | nil => rfl
        | cons n later => simp [outside n List.mem_cons_self]
    | cons n later ih =>
        obtain ⟨taken, dropped⟩ := Prod.mk.inj ih
        cases within : t.span.contains n.span with
        | true => simp [within, taken, dropped]
        | false => simp [within]
  rw [place, place, cut]
  rfl

theorem nest_append (ts us : List Token)
    (outside : ∀ t ∈ ts, ∀ n ∈ nest us, t.span.contains n.span = false) :
    nest (ts ++ us) = nest ts ++ nest us := by
  induction ts with
  | nil => rfl
  | cons t later ih =>
      obtain ⟨here, others⟩ := List.forall_mem_cons.mp outside
      have below := ih others
      change place t (nest (later ++ us)) = place t (nest later) ++ nest us
      rw [below, place_append t here]

end Node

theorem Token.Orderly.joined {a b : Text} {accepted first second joined left right : List Token}
    (split : Plain.Joined a b accepted first second)
    (whole : Token.Orderly (a ++ newline :: b) joined) (same : joined.Perm accepted)
    (before : Token.Orderly a left) (sameBefore : left.Perm first)
    (behind : Token.Orderly b right) (sameBehind : right.Perm second) :
    joined = left ++ right.map (Token.shift (a ++ [newline]).size) := by
  have perm : joined.Perm (left ++ right.map (Token.shift (a ++ [newline]).size)) :=
    (same.trans split.same).trans (sameBefore.symm.append (sameBehind.symm.map _))
  have sorted : (left ++ right.map (Token.shift (a ++ [newline]).size)).Pairwise
      fun t u => t.span.precedes u.span = true := by
    apply List.pairwise_append.mpr
    refine ⟨before.arranged.imp And.left, ?_, ?_⟩
    · apply List.pairwise_map.mpr
      apply behind.arranged.imp
      intro t u arranged
      rw [Token.shift_span, Token.shift_span, Span.precedes_shift]
      exact arranged.1
    · intro t member u there
      obtain ⟨v, _, rfl⟩ := List.mem_map.mp there
      have stop := (before.wellCut t member).stop_le
      have order := (before.wellCut t member).solid.nonempty
      rw [Span.precedes_iff, Token.shift_span, Span.shift_start, Text.size_append, Text.size]
      left
      omega
  -- Both lists hold the same tokens in reading order, and there is one such list.
  refine perm.eq_of_pairwise (fun t u _ _ order back => ?_) (whole.arranged.imp And.left) sorted
  rw [Span.precedes_iff] at order back
  omega

open Node

namespace Markup

theorem renderNodes_gap (e : Excerpt) (later : List Node) :
    renderNodes (gap e ++ later) = escape e.text ++ renderNodes later := by
  cases text : e.text with
  | nil => simp [gap, Excerpt.isEmpty, text, escape]
  | cons ch rest => simp [gap, Excerpt.isEmpty, text, renderNodes, renderNode]

theorem renderNodes_fillGaps_nil (region : Excerpt) :
    renderNodes (fillGaps region []) = escape region.text := by
  have alone := renderNodes_gap region []
  rwa [List.append_nil, renderNodes, List.append_nil, ← fillGaps_nil] at alone

theorem renderNodes_fillGaps_cons (region : Excerpt) (n : Node) (later : List Node) :
    renderNodes (fillGaps region (n :: later)) = escape (region.upTo n.span.start).text ++
      (renderNode n ++ renderNodes (fillGaps (region.startingAt n.span.stop) later)) := by
  rw [fillGaps_cons, renderNodes_gap, renderNodes]

theorem renderNodes_fillGaps_newline {place : Nat} {lead b : Text} {nodes : List Node}
    (behind : ∀ n ∈ nodes, place + lead.size + 1 ≤ n.span.start ∧ n.span.start ≤ n.span.stop) :
    renderNodes (fillGaps ⟨place, lead ++ newline :: b⟩ nodes) =
      escape lead ++ newline :: renderNodes (fillGaps ⟨place + lead.size + 1, b⟩ nodes) := by
  cases nodes with
  | nil => rw [renderNodes_fillGaps_nil, renderNodes_fillGaps_nil, escape_newline]
  | cons n later =>
      obtain ⟨start, order⟩ := behind n List.mem_cons_self
      -- The first tree begins behind the newline, so the gap before it ends there.
      have width : Text.size (lead ++ [newline]) = lead.size + 1 := Text.size_append ..
      have shape : lead ++ newline :: b = (lead ++ [newline]) ++ b := by simp
      have gap : (⟨place, lead ++ newline :: b⟩ : Excerpt).upTo n.span.start =
          ⟨place, lead ++ newline ::
            (Excerpt.upTo ⟨place + lead.size + 1, b⟩ n.span.start).text⟩ := by
        rw [shape, Excerpt.upTo, Text.takeBytes_append_of_ge _ _ _ (by simp only [width]; omega),
          width, Nat.sub_sub]
        simp [Excerpt.upTo, Nat.add_assoc]
      have rest : (⟨place, lead ++ newline :: b⟩ : Excerpt).startingAt n.span.stop =
          Excerpt.startingAt ⟨place + lead.size + 1, b⟩ n.span.stop := by
        rw [shape, Excerpt.startingAt,
          Text.dropBytes_append_of_ge _ _ _ (by simp only [width]; omega), width, Nat.sub_sub]
        simp [Excerpt.startingAt, Nat.add_assoc]
      rw [renderNodes_fillGaps_cons, renderNodes_fillGaps_cons, gap, rest, escape_newline]
      simp

theorem renderNodes_fillGaps_joined {a b : Text} {region : Excerpt} {first second : List Node}
    (stretch : region.Stretch a) (ends : region.stop = a.size)
    (sound : ∀ n ∈ first, n.Sound a) (apart : first.Pairwise Before)
    (start : ∀ n ∈ first, region.start ≤ n.span.start)
    (behind : ∀ n ∈ second, a.size + 1 ≤ n.span.start ∧ n.span.start ≤ n.span.stop) :
    renderNodes (fillGaps ⟨region.start, region.text ++ newline :: b⟩ (first ++ second)) =
      renderNodes (fillGaps region first) ++
        newline :: renderNodes (fillGaps ⟨a.size + 1, b⟩ second) := by
  induction first generalizing region with
  | nil =>
      have place : region.start + region.text.size = a.size := ends
      rw [List.nil_append, renderNodes_fillGaps_nil, ← place]
      exact renderNodes_fillGaps_newline (place ▸ behind)
  | cons n later ih =>
      obtain ⟨here, others⟩ := List.forall_mem_cons.mp sound
      obtain ⟨ahead, apart⟩ := List.pairwise_cons.mp apart
      have low := start n List.mem_cons_self
      have order := here.nonempty
      have high : n.span.stop ≤ region.stop := ends ▸ here.stretch.1.covered.stop_le
      have last : region.start ≤ n.span.stop := by omega
      obtain ⟨rest, stop⟩ := stretch.startingAt here.stretch.1.last last high
      have inside : n.span.stop - region.start ≤ region.text.size := by
        rw [Excerpt.stop] at high
        omega
      -- The first tree lies within the first text, so neither cut around it sees what is added.
      have gap : (⟨region.start, region.text ++ newline :: b⟩ : Excerpt).upTo n.span.start =
          region.upTo n.span.start := by
        rw [Excerpt.upTo, Excerpt.upTo, Text.takeBytes_append_of_le _ _ _ (by simp only; omega)]
      have back : (⟨region.start, region.text ++ newline :: b⟩ : Excerpt).startingAt n.span.stop =
          ⟨n.span.stop, (region.startingAt n.span.stop).text ++ newline :: b⟩ := by
        rw [Excerpt.startingAt, Text.dropBytes_append_of_le _ _ _ inside]
        rfl
      have tail : renderNodes (fillGaps ⟨n.span.stop,
          (region.startingAt n.span.stop).text ++ newline :: b⟩ (later ++ second)) =
          renderNodes (fillGaps (region.startingAt n.span.stop) later) ++
            newline :: renderNodes (fillGaps ⟨a.size + 1, b⟩ second) :=
        ih rest (stop.trans ends) others apart ahead
      rw [List.cons_append, renderNodes_fillGaps_cons, renderNodes_fillGaps_cons, gap, back, tail]
      simp only [List.append_assoc]

end Markup

def OutsideCode (text : Text) (place : Nat) : Prop :=
  ∀ nodes, tokenize text = .ok nodes → ∀ t ∈ tokensAll nodes, t.type = .codeBlock →
    ¬ (t.span.start ≤ place ∧ place < t.span.stop)

instance (text : Text) (place : Nat) : Decidable (OutsideCode text place) :=
  match made : tokenize text with
  | .error _ => isTrue fun _ same => nomatch made.symm.trans same
  | .ok nodes =>
      decidable_of_iff (∀ t ∈ tokensAll nodes, t.type = .codeBlock →
          ¬ (t.span.start ≤ place ∧ place < t.span.stop))
        ⟨fun outside _ same => Except.ok.inj (made.symm.trans same) ▸ outside,
          fun outside => outside nodes made⟩

theorem outsideCode_iff (text : Text) (place : Nat) :
    OutsideCode text place ↔ ∀ t ∈ Plain.accept Grammar.markdown text, t.type = .codeBlock →
      ¬ (t.span.start ≤ place ∧ place < t.span.stop) := by
  obtain ⟨ts, same, _, grown, made⟩ :=
    tokenizeWith_grown Grammar.markdown Grammar.markdown_lawful text
  have tokens : tokensAll (fillGaps text.whole (nest ts)) = ts := by
    rw [tokensAll_fillGaps, grown.tokens]
  constructor
  · intro outside t present
    apply outside _ made t
    rw [tokens]
    exact same.mem_iff.mpr present
  · intro outside nodes made' t present
    rw [← Except.ok.inj (made.symm.trans made'), tokens] at present
    exact outside t (same.mem_iff.mp present)

theorem OutsideCode.of_joined {a b : Text} (across : OutsideCode (a ++ newline :: b) a.size)
    {place : Nat} (outside : OutsideCode (a ++ newline :: b) ((a ++ [newline]).size + place)) :
    OutsideCode b place := by
  rw [outsideCode_iff] at *
  have joined := Plain.accept_joined a b across
  intro t present block around
  have moved : t.shift (a ++ [newline]).size ∈
      Plain.accept Grammar.markdown (a ++ newline :: b) :=
    joined.same.mem_iff.mpr (List.mem_append_right _ (List.mem_map_of_mem present))
  apply outside _ moved block
  rw [Token.shift_span, Span.shift_start, Span.shift_stop]
  omega

/-- The trees of the two texts stand one behind the other in the joined text. -/
theorem tokenize_joined {a b : Text} (outside : OutsideCode (a ++ newline :: b) a.size) :
    ∃ first second, (∀ n ∈ first, n.Sound a) ∧ first.Pairwise Before ∧ (∀ n ∈ second, n.Sound b) ∧
      tokenize a = .ok (fillGaps a.whole first) ∧ tokenize b = .ok (fillGaps b.whole second) ∧
      tokenize (a ++ newline :: b) = .ok (fillGaps (a ++ newline :: b).whole
        (first ++ shiftAll (a ++ [newline]).size second)) := by
  have lawful := Grammar.markdown_lawful
  obtain ⟨left, same, orderly, grown, made⟩ := tokenizeWith_grown Grammar.markdown lawful a
  obtain ⟨right, same', orderly', grown', made'⟩ := tokenizeWith_grown Grammar.markdown lawful b
  obtain ⟨joined, sameJoined, orderlyJoined, _, madeJoined⟩ :=
    tokenizeWith_grown Grammar.markdown lawful (a ++ newline :: b)
  have split := orderlyJoined.joined (Plain.accept_joined a b ((outsideCode_iff ..).mp outside))
    sameJoined orderly same orderly' same'
  have trees : nest joined = nest left ++ shiftAll (a ++ [newline]).size (nest right) := by
    rw [split, nest_append, nest_shift]
    intro t member n there
    rw [nest_shift, shiftAll_eq_map] at there
    obtain ⟨m, inside, rfl⟩ := List.mem_map.mp there
    have stop := (orderly.wellCut t member).stop_le
    have order := (grown'.sound m inside).nonempty
    rw [Bool.eq_false_iff, ne_eq, Span.contains_iff, Node.shift_span, Span.shift_stop,
      Text.size_append, Text.size]
    omega
  refine ⟨nest left, nest right, grown.sound, grown.apart, grown'.sound, made, made', ?_⟩
  rw [← trees]
  exact madeJoined

namespace Markup

theorem render_of_tokenize {text : Text} {nodes : List Node} (fresh : isRendered text = false)
    (made : tokenize text = .ok nodes) : render text = .ok (renderNodes nodes) := by
  rw [tokenize] at made
  rw [render, renderWith, fresh, made]
  rfl

/-- Rendering goes line by line where no code block reaches over the end of a line. -/
theorem render_joined {a b : Text} (fresh : isRendered (a ++ newline :: b) = false)
    (outside : OutsideCode (a ++ newline :: b) a.size) :
    ∃ first second, render a = .ok first ∧ render b = .ok second ∧
      render (a ++ newline :: b) = .ok (first ++ newline :: second) := by
  have freshBefore : isRendered a = false :=
    Text.occursIn_of_infix _ (List.infix_append [] a _) fresh
  have freshBehind : isRendered b = false :=
    Text.occursIn_of_infix _ ⟨a ++ [newline], [], by simp⟩ fresh
  obtain ⟨first, second, sound, apart, sound', made, made', madeJoined⟩ := tokenize_joined outside
  refine ⟨_, _, render_of_tokenize freshBefore made, render_of_tokenize freshBehind made', ?_⟩
  have width : (a ++ [newline]).size = a.size + 1 := Text.size_append ..
  have behind : ∀ n ∈ shiftAll (a ++ [newline]).size second,
      a.size + 1 ≤ n.span.start ∧ n.span.start ≤ n.span.stop := by
    intro n member
    rw [shiftAll_eq_map] at member
    obtain ⟨m, inside, rfl⟩ := List.mem_map.mp member
    have order := (sound' m inside).nonempty
    rw [Node.shift_span, Span.shift_start, Span.shift_stop, width]
    omega
  have markup := renderNodes_fillGaps_joined (b := b) a.whole_stretch
    (by rw [Excerpt.stop, Text.whole, Nat.zero_add]) sound apart (fun n _ => Nat.zero_le _) behind
  have moved : fillGaps ⟨a.size + 1, b⟩ (shiftAll (a ++ [newline]).size second) =
      shiftAll (a ++ [newline]).size (fillGaps b.whole second) := by
    rw [← fillGaps_shift, Excerpt.shift, width]
    rfl
  rw [moved, renderNodes_shift] at markup
  rw [render_of_tokenize fresh madeJoined]
  exact congrArg Except.ok markup

end Markup

end MarkdownHighlight
