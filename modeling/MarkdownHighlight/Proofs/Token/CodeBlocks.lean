import Mathlib.Data.List.Sort
import MarkdownHighlight.Proofs.Grammar.FenceReading
import MarkdownHighlight.Proofs.Token.BlockLines

/-!
The code blocks of a text are fenced blocks of its lines. The pattern of code blocks comes
first and finds nothing in its way, so it accepts a block wherever one begins, line by
line; no other pattern makes such a token. Which closing fence ends a block is the one the
expression prefers, not the first one: where an empty block could be made and a closing
fence follows anywhere behind it, the block goes on to that fence.
-/

namespace MarkdownHighlight

open Text (newline lines joinLines)
open Grammar (markdown codeBlock codeBlock_lawful)

structure Cursor.AtLine (c : Cursor) (ahead behind : List Text) : Prop where
  first : Assertion.lineStart.holds c = true
  place : c.offset = (linesBefore id ahead).size
  split : lines c.rest = behind

namespace Cursor

variable {c d e : Cursor} {w : Text} {ahead first behind : List Text}

theorem atLine_atStart (text : Text) : (atStart text).AtLine [] (lines text) := ⟨rfl, rfl, rfl⟩

theorem size_linesBefore_append (some : first ≠ []) :
    (linesBefore id (ahead ++ first)).size =
      (linesBefore id ahead).size + Text.size (joinLines first ++ [newline]) := by
  rw [← linesBefore_eq some, linesBefore, List.flatMap_append, Text.size_append]
  rfl

theorem AtLine.over (first : List Text) (here : c.AtLine ahead (first ++ behind))
    (some : first ≠ []) : ∃ d, c.Walks (joinLines first) d ∧ (behind = [] ∧ d.rest = [] ∨
      ∃ e, d.Walks [newline] e ∧ e.AtLine (ahead ++ first) behind) := by
  obtain ⟨d, walk, _, ended | ⟨e, step, after⟩⟩ := exists_lines first some here.split
  · exact ⟨d, walk, Or.inl ended⟩
  · refine ⟨d, walk, Or.inr ⟨e, step, ?_, ?_, after⟩⟩
    · rw [Assertion.holds, Walks.previous? (w := []) step]
      rfl
    · rw [(walk.trans step).offset, here.place, size_linesBefore_append some]

theorem Walks.not_lineStart_of_last {line : Text} (first : List Text)
    (walk : c.Walks (joinLines (first ++ [line])) d) (some : line ≠ []) (clean : '\n' ∉ line) :
    Assertion.lineStart.holds d = false := by
  have around := joinLines_around first [line] [] (by simp)
  rw [List.append_nil, Text.joinLines_singleton] at around
  rw [around, linesAfter, List.flatMap_nil, List.append_nil] at walk
  obtain ⟨e, _, last⟩ := walk.of_append
  exact last.not_lineStart some clean

end Cursor

namespace Plain

structure InOrder (accepted : List Token) (place : Nat) : Prop where
  ordered : accepted.Pairwise fun t u => t.span.precedes u.span = true
  behind : ∀ t ∈ accepted, t.span.start < t.span.stop ∧ t.span.stop ≤ place

section Scan

variable {p : Pattern} {c d : Cursor} {m : Match} {t : Token} {accepted : List Token}

theorem InOrder.further {place place' : Nat} (order : InOrder accepted place)
    (le : place ≤ place') : InOrder accepted place' :=
  ⟨order.ordered, fun t inside => (order.behind t inside).imp id (Nat.le_trans · le)⟩

theorem InOrder.add (order : InOrder accepted c.offset) (reads : p.Reads c m t) :
    InOrder (accepted ++ [t]) m.stop.offset := by
  have moved := reads.moved
  have span := reads.span_eq
  refine ⟨List.pairwise_append.mpr ⟨order.ordered, List.pairwise_singleton _ _, ?_⟩, ?_⟩
  · intro u old v new
    obtain ⟨solid, before⟩ := order.behind u old
    rw [List.mem_singleton.mp new, Span.precedes_iff, span]
    simp only
    omega
  · intro u inside
    rcases List.mem_append.mp inside with old | new
    · obtain ⟨solid, before⟩ := order.behind u old
      omega
    · rw [List.mem_singleton.mp new, span]
      exact ⟨moved, Nat.le_refl _⟩

theorem mem_foldl_of_type {patterns : List Pattern} {text : Text}
    (lawful : ∀ p ∈ patterns, p.Lawful) (others : ∀ p ∈ patterns, p.type ≠ t.type)
    (member : t ∈ patterns.foldl (fun accepted p => scanFrom p accepted (.atStart text)) accepted) :
    t ∈ accepted := by
  induction patterns generalizing accepted with
  | nil => exact member
  | cons p later ih =>
      obtain ⟨reads, lawful⟩ := List.forall_mem_cons.mp lawful
      obtain ⟨other, others⟩ := List.forall_mem_cons.mp others
      rcases mem_scanFrom_cases reads (ih lawful others member) with old | type
      · exact old
      · exact absurd type.symm other

end Scan

section Blocks

variable {c d : Cursor} {accepted : List Token} {line : Text} {ahead later behind : List Text}

/-- From a place on a scan adds these blocks, and keeps the tokens in order. -/
def Fences (accepted : List Token) (c : Cursor) (blocks : List Fenced) : Prop :=
  ((scanFrom codeBlock accepted c).Pairwise fun t u => t.span.precedes u.span = true) ∧
    (scanFrom codeBlock accepted c).map (·.source) =
      accepted.map (·.source) ++ blocks.map Fenced.source

theorem matchAt?_eq_none_of_lineStart (inside : Assertion.lineStart.holds c = false) :
    codeBlock.regex.matchAt? c = none := by
  cases found : codeBlock.regex.matchAt? c with
  | none => rfl
  | some m =>
      have atStart := (codeBlock_lines found).1
      rw [inside] at atStart
      cases atStart

theorem matchAt?_of_unopened (here : c.AtLine ahead (line :: later))
    (unopened : opensFence line = true → ∀ other ∈ later, closesFence other = false) :
    codeBlock.regex.matchAt? c = none := by
  cases found : codeBlock.regex.matchAt? c with
  | none => rfl
  | some m =>
      obtain ⟨_, _, split, opens, other, inside, closes⟩ := Grammar.fences_of_matchAt? found
      obtain ⟨rfl, rfl⟩ := List.cons.inj (here.split.symm.trans split)
      rw [unopened opens other inside] at closes
      cases closes

theorem matchAt?_behind_block (first : List Text) (closes : closesFence line = true)
    (walk : c.Walks (joinLines (first ++ [line])) d) : codeBlock.regex.matchAt? d = none := by
  obtain ⟨filler, rfl, filling⟩ := (Grammar.closesFence_iff line).mp closes
  apply matchAt?_eq_none_of_lineStart
  exact walk.not_lineStart_of_last first (by simp [Grammar.fence])
    (Grammar.newline_not_mem_fence filling)

theorem scanFrom_over_line (refused : codeBlock.regex.matchAt? c = none)
    (walk : c.Walks line d) (clean : newline ∉ line) :
    scanFrom codeBlock accepted c = scanFrom codeBlock accepted d := by
  apply scanFrom_of_walk codeBlock_lawful walk
  intro v e u there onward more
  by_cases here : v = []
  · subst here
    rw [← there.eq_of_nil]
    exact claimAt?_of_refused refused
  · obtain rfl := walk.word_unique (there.trans onward)
    exact claimAt?_of_refused (matchAt?_eq_none_of_lineStart
      (there.not_lineStart here fun inside => clean (List.mem_append_left _ inside)))

theorem Fences.of_lineEnd (refused : codeBlock.regex.matchAt? d = none)
    (next : behind = [] ∧ d.rest = [] ∨ ∃ e, d.Walks [newline] e ∧ e.AtLine ahead behind)
    (order : InOrder accepted d.offset)
    (later : ∀ e, e.AtLine ahead behind → InOrder accepted e.offset →
      Fences accepted e (Fenced.blocksFrom remoteClosing? ahead behind)) :
    Fences accepted d (Fenced.blocksFrom remoteClosing? ahead behind) := by
  rcases next with ⟨rfl, ended⟩ | ⟨e, step, there⟩
  · rw [Fences, scanFrom_at_end ended, Fenced.blocksFrom_nil]
    exact ⟨order.ordered, (List.append_nil _).symm⟩
  · have forward := (Cursor.forward?_eq_some_iff d e).mpr ⟨newline, step⟩
    rw [Fences, scanFrom_of_step codeBlock_lawful forward (claimAt?_of_refused refused)]
    exact later e there (order.further step.offset_le)

theorem fences_of_atLine (ahead ls : List Text) (c : Cursor) (accepted : List Token)
    (here : c.AtLine ahead ls) (order : InOrder accepted c.offset) :
    Fences accepted c (Fenced.blocksFrom remoteClosing? ahead ls) := by
  induction ahead, ls using Fenced.lines_induction generalizing c accepted with
  | nil ahead => exact absurd here.split (Text.lines_ne_nil _)
  | block ahead opening inner closing behind opens closed ih =>
      obtain ⟨m, found, walk⟩ := Grammar.codeBlock_matchAt? here.first opens closed here.split
      obtain ⟨t, reads⟩ := codeBlock_lawful.reads c m found
      have admitted := admits_of_behind reads fun u inside => (order.behind u inside).2
      have claimed := (claimAt?_eq_some_iff codeBlock_lawful t m.stop).mpr
        ⟨m, found, reads, admitted, rfl⟩
      have shape : opening :: (inner ++ closing :: behind) =
          opening :: (inner ++ [closing]) ++ behind := by simp
      obtain ⟨d, walk', next⟩ := Cursor.AtLine.over _ (shape ▸ here) (by simp)
      obtain rfl := walk.target_unique walk'
      have refused := matchAt?_behind_block (opening :: inner) closed.closes walk
      have rest := Fences.of_lineEnd refused next (order.add reads) fun e there after =>
        ih e (accepted ++ [t]) there after
      rw [Fenced.blocksFrom_block opens closed.remoteClosing?, Fences,
        scanFrom_of_claim codeBlock_lawful claimed]
      refine ⟨rest.1, ?_⟩
      rw [rest.2, List.map_append, List.append_assoc, List.map_singleton, List.singleton_append,
        reads.source, walk.excerptTo, here.place, List.map_cons]
      rfl
  | plain ahead line later unopened ih =>
      have refused := matchAt?_of_unopened here unopened
      have clean : newline ∉ line :=
        Text.newline_not_mem_of_mem_lines c.rest line (by simp [here.split])
      obtain ⟨d, walk, next⟩ := Cursor.AtLine.over [line] here (by simp)
      rw [Text.joinLines_singleton] at walk
      have refused' : codeBlock.regex.matchAt? d = none := by
        by_cases empty : line = []
        · subst empty
          rwa [← walk.eq_of_nil]
        · exact matchAt?_eq_none_of_lineStart (walk.not_lineStart empty clean)
      rw [Fenced.blocksFrom_plain fun opens => remoteClosing?_eq_none (unopened opens), Fences,
        scanFrom_over_line refused walk clean]
      exact Fences.of_lineEnd refused' next (order.further walk.offset_le) fun e there after =>
        ih e accepted there after

end Blocks

theorem mem_accept_codeBlock_iff (text : Text) (t : Token) :
    t ∈ accept markdown text ∧ t.type = .codeBlock ↔
      t ∈ scanFrom codeBlock [] (.atStart text) := by
  change t ∈ markdown.tail.foldl (fun accepted p => scanFrom p accepted (.atStart text))
    (scanFrom codeBlock [] (.atStart text)) ∧ _ ↔ _
  constructor
  · rintro ⟨member, type⟩
    have lawful : ∀ p ∈ markdown.tail, p.Lawful :=
      fun p inside => Grammar.markdown_lawful p (List.mem_of_mem_tail inside)
    have others : ∀ p ∈ markdown.tail, p.type ≠ .codeBlock := by decide
    exact mem_foldl_of_type lawful (type ▸ others) member
  · intro member
    refine ⟨subset_foldl _ text _ member, ?_⟩
    rcases mem_scanFrom_cases codeBlock_lawful member with none | type
    · cases none
    · exact type

end Plain

theorem eq_of_precedes {ts us : List Token}
    (ordered : ts.Pairwise fun t u => t.span.precedes u.span = true)
    (ordered' : us.Pairwise fun t u => t.span.precedes u.span = true)
    (same : ∀ t, t ∈ ts ↔ t ∈ us) : ts = us := by
  have antisymm : Std.Antisymm fun t u : Token => t.span.precedes u.span = true := by
    refine ⟨fun t u first second => ?_⟩
    rw [Span.precedes_asymm first] at second
    cases second
  have irrefl : Std.Irrefl fun t u : Token => t.span.precedes u.span = true := by
    refine ⟨fun t order => ?_⟩
    rw [Span.precedes_irrefl] at order
    cases order
  exact ordered.eq_of_mem_iff ordered' same

def codeBlocks (nodes : List Node) : List Token :=
  (Node.tokensAll nodes).filter (·.type == .codeBlock)

/-- Every code block of a text is a stretch of its lines from an opening fence to a closing
fence, and of the lines inside only the first may be a closing fence. The blocks are those
that end at the first closing fence exactly when no block that is empty for that rule has
a closing fence anywhere behind it. -/
theorem tokenize_fenced (text : Text) : ∃ nodes, tokenize text = .ok nodes ∧
    (codeBlocks nodes).map (·.source) =
      (Fenced.blocks remoteClosing? (lines text)).map Fenced.source ∧
    (∀ b ∈ Fenced.blocks remoteClosing? (lines text), b.Formed (lines text)) ∧
    ((codeBlocks nodes).map (·.source) =
        (Fenced.blocks firstClosing? (lines text)).map Fenced.source ↔
      ∀ b ∈ Fenced.blocks firstClosing? (lines text), b.lines.length = 2 →
        ∀ line ∈ b.behind, closesFence line = false) := by
  obtain ⟨nodes, made, tokens, ordered⟩ := tokenize_accepts text
  obtain ⟨inOrder, sources⟩ := Plain.fences_of_atLine [] (lines text) (.atStart text) []
    (Cursor.atLine_atStart text) ⟨List.Pairwise.nil, nofun⟩
  have same : codeBlocks nodes = Plain.scanFrom codeBlock [] (.atStart text) := by
    apply eq_of_precedes (ordered.filter _) inOrder
    intro t
    rw [List.mem_filter, tokens, beq_iff_eq]
    exact Plain.mem_accept_codeBlock_iff text t
  rw [List.map_nil, List.nil_append, ← same] at sources
  refine ⟨nodes, made, sources, Fenced.blocksFrom_formed [] (lines text), ?_⟩
  rw [sources]
  exact Fenced.sources_eq_iff [] (lines text)

/-- Of three fences the last one ends the block that the first one opens. -/
theorem middle_fence_in_block :
    let text : Text := "```\n```\n```".toList
    ((tokenize text).map fun nodes => (codeBlocks nodes).map (·.source)) = .ok [⟨0, text⟩] ∧
      (Fenced.blocks firstClosing? (lines text)).map Fenced.source =
        [⟨0, "```\n```".toList⟩] ∧
      (lines text)[1]?.any closesFence = true := by
  decide +kernel

end MarkdownHighlight
