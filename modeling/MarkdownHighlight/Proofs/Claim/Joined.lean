import MarkdownHighlight.Proofs.Claim.Window
import MarkdownHighlight.Text.Lines

/-!
Claiming in two texts that are joined by a newline. A construct that stays in
its line cannot reach over the newline, and code blocks claim first, so they
claim all that they match; if none of them reaches over the newline, the joined
text is claimed as the two texts are, the second one moved to its place.
-/

namespace MarkdownHighlight

open Text (newline)

def Pattern.InLine (p : Pattern) : Prop := ∀ set ∈ p.regex.sets, set.test newline = false

theorem framed_before (b : Text) : Framed [] (newline :: b) where
  before := nofun
  after := fun _ first => (Option.some.inj first).symm

theorem framed_behind (a : Text) : Framed (a ++ [newline]) [] where
  before := by
    intro ch last
    rw [List.getLast?_concat] at last
    exact (Option.some.inj last).symm
  after := nofun

namespace Cursor

theorem atStart_within (a tail : Text) : (atStart a).within [] tail = atStart (a ++ tail) :=
  eq_of_sides _ _ rfl rfl

theorem walk_over_newline {a b : Text} {e : Cursor} (text : e.text = a) (ended : e.rest = []) :
    (e.within [] (newline :: b)).Walks [newline] ((atStart b).within (a ++ [newline]) []) where
  rest_eq := by simp [within, atStart, ended]
  before_eq := by
    rw [Cursor.text, ended, List.append_nil] at text
    simp [within, atStart, ← text]

theorem rest_of_offset_le {a b : Text} (c : Cursor) (text : c.text = a ++ b)
    (le : c.offset ≤ a.size) : b.length ≤ c.rest.length := by
  have sizes : Text.size c.before.reverse ≤ a.size := by
    rwa [size_reverse, ← c.offset_eq]
  obtain ⟨w, _, rest⟩ := Text.append_split _ _ _ _ text sizes
  rw [rest, List.length_append]
  omega

end Cursor

theorem Pattern.InLine.stop_le {p : Pattern} {a b : Text} {c : Cursor} {m : Match}
    (inLine : p.InLine) (text : c.text = a ++ newline :: b) (before : c.offset ≤ a.size)
    (found : p.regex.matchAt? c = some m) : m.stop.offset ≤ a.size := by
  obtain ⟨d, groups, first, rfl⟩ := Regex.matchAt?_eq_some found
  obtain ⟨w, walk, consumed⟩ := Regex.outcomes_walk _ _ _ (List.mem_of_mem_head? first)
  obtain ⟨e, front, rest⟩ := (Cursor.atStart (a ++ newline :: b)).exists_walk a (newline :: b) rfl
  have place : e.offset = a.size := by simpa [Cursor.atStart] using front.offset
  obtain ⟨v, toEdge⟩ := c.walk_of_offset_le e (text.trans front.text.symm) (by omega)
  by_cases beyond : d.offset ≤ a.size
  · exact beyond
  · exfalso
    -- A match that went beyond the first text would have consumed the newline behind it.
    obtain ⟨u, longer, onward⟩ := toEdge.continue_of_le walk (by simp only; omega)
    have more := onward.offset_lt_iff.mp (by simp only; omega)
    have spelled := onward.rest_eq
    rw [rest] at spelled
    cases u with
    | nil => exact more rfl
    | cons ch later =>
        obtain ⟨set, member, allowed⟩ := consumed ch (by simp [longer])
        rw [← (List.cons.inj spelled).1, inLine set member] at allowed
        cases allowed

namespace Grammar

theorem markdown_lineLocal : ∀ p ∈ markdown, p.LineLocal := by
  have assertions : ∀ p ∈ markdown, ∀ a ∈ p.regex.assertions, a.isLineLocal = true := by decide
  exact fun p member => ⟨markdown_lawful p member, markdown_shifts p member, assertions p member⟩

theorem inLine_of_tail : ∀ p ∈ markdown.tail, p.InLine := by
  unfold Pattern.InLine
  decide

end Grammar

namespace Plain

structure Joined (a b : Text) (accepted first second : List Token) : Prop where
  same : accepted.Perm (first ++ second.map (Token.shift (a ++ [newline]).size))
  inFirst : ∀ t ∈ first, t.span.stop ≤ a.size
  inSecond : ∀ t ∈ second, t.span.stop ≤ b.size

section Joined

variable {p : Pattern} {a b : Text} {accepted first second : List Token}

theorem Joined.before (joined : Joined a b accepted first second) :
    Comprises [] a accepted first (second.map (Token.shift (a ++ [newline]).size)) where
  same := by
    rw [Token.map_shift_nil]
    exact joined.same
  inside := joined.inFirst
  elsewhere := by
    intro u present
    obtain ⟨t, _, rfl⟩ := List.mem_map.mp present
    right
    rw [Token.shift_span, Span.shift_start, Text.size_append, Text.size]
    omega

theorem Joined.behind (joined : Joined a b accepted first second) :
    Comprises (a ++ [newline]) b accepted second first where
  same := joined.same.trans List.perm_append_comm
  inside := joined.inSecond
  elsewhere := by
    intro u present
    left
    have := joined.inFirst u present
    rw [Text.size_append]
    omega

/-- One pattern scans the joined text as it scans the two texts, when it has no
match that begins in the first and ends behind it. -/
theorem scanFrom_joined (lineLocal : p.LineLocal) (joined : Joined a b accepted first second)
    (stay : ∀ accepted' c, Reached p accepted (.atStart (a ++ newline :: b)) accepted' c →
      c.offset ≤ a.size → ∀ m, p.regex.matchAt? c = some m → m.stop.offset ≤ a.size) :
    Joined a b (scanFrom p accepted (.atStart (a ++ newline :: b)))
      (scanFrom p first (.atStart a)) (scanFrom p second (.atStart b)) := by
  have stayBefore : ∀ accepted' (d : Cursor), d.text = a →
      Reached p accepted (.atStart (a ++ newline :: b)) accepted' (d.within [] (newline :: b)) →
      ∀ m, p.regex.matchAt? (d.within [] (newline :: b)) = some m →
        (newline :: b).length ≤ m.stop.rest.length := by
    intro accepted' d text reached m found
    obtain ⟨t, reads⟩ := lineLocal.lawful.reads _ m found
    obtain ⟨w, walk⟩ := reads.walk
    have offset : (d.within [] (newline :: b)).offset ≤ a.size := by
      have sizes := congrArg Text.size text
      rw [Cursor.text, Text.size_append, Cursor.size_reverse, ← d.offset_eq] at sizes
      change 0 + d.offset ≤ a.size
      omega
    refine m.stop.rest_of_offset_le ?_ (stay accepted' _ reached offset m found)
    rw [walk.text, Cursor.within_text, text, List.nil_append]
  have outset : Reached p accepted (.atStart (a ++ newline :: b)) accepted
      ((Cursor.atStart a).within [] (newline :: b)) := by
    rw [Cursor.atStart_within]
    exact .start
  obtain ⟨accepted', e, reached, text, ended, comprises⟩ :=
    Reached.through (framed_before b) lineLocal stayBefore (Cursor.atStart_text a) outset
      joined.before
  -- The newline itself begins no match.
  have refused := claimAt?_within (framed_before b) lineLocal (text ▸ comprises)
    (stayBefore accepted' e text reached)
  rw [claimAt?_at_end lineLocal.lawful ended] at refused
  have forward := (Cursor.forward?_eq_some_iff _ _).mpr
    ⟨newline, Cursor.walk_over_newline (b := b) text ended⟩
  have middle : Joined a b accepted' (scanFrom p first (.atStart a)) second := by
    have same := comprises.same
    rw [Token.map_shift_nil] at same
    exact ⟨same, comprises.inside, joined.inSecond⟩
  obtain ⟨final, f, reached', _, ended', comprises'⟩ :=
    Reached.through (framed_behind a) lineLocal (fun _ _ _ _ _ _ => Nat.zero_le _)
      (Cursor.atStart_text b) (reached.step refused forward) middle.behind
  rw [reached'.scanFrom_eq lineLocal.lawful,
    scanFrom_at_end (by simp [Cursor.within, ended'])]
  exact ⟨comprises'.same.trans List.perm_append_comm, comprises.inside, comprises'.inside⟩

theorem foldl_joined {patterns : List Pattern} (lineLocal : ∀ p ∈ patterns, p.LineLocal)
    (inLine : ∀ p ∈ patterns, p.InLine) (joined : Joined a b accepted first second) :
    Joined a b
      (patterns.foldl (fun accepted p => scanFrom p accepted (.atStart (a ++ newline :: b)))
        accepted)
      (patterns.foldl (fun accepted p => scanFrom p accepted (.atStart a)) first)
      (patterns.foldl (fun accepted p => scanFrom p accepted (.atStart b)) second) := by
  induction patterns generalizing accepted first second with
  | nil => exact joined
  | cons p later ih =>
      obtain ⟨lineLocal, others⟩ := List.forall_mem_cons.mp lineLocal
      obtain ⟨inLine, inLines⟩ := List.forall_mem_cons.mp inLine
      refine ih others inLines (scanFrom_joined lineLocal joined ?_)
      intro accepted' c reached before m found
      exact inLine.stop_le (reached.text lineLocal.lawful) before found

end Joined

theorem subset_foldl (patterns : List Pattern) (text : Text) (accepted : List Token) :
    accepted ⊆ patterns.foldl (fun accepted p => scanFrom p accepted (.atStart text)) accepted := by
  induction patterns generalizing accepted with
  | nil => exact List.Subset.refl _
  | cons p later ih => exact List.Subset.trans (subset_scanFrom p accepted _) (ih _)

/-- Without a code block over the newline the joined text is claimed as the two texts are. -/
theorem accept_joined (a b : Text)
    (apart : ∀ t ∈ accept Grammar.markdown (a ++ newline :: b), t.type = .codeBlock →
      ¬ (t.span.start ≤ a.size ∧ a.size < t.span.stop)) :
    Joined a b (accept Grammar.markdown (a ++ newline :: b)) (accept Grammar.markdown a)
      (accept Grammar.markdown b) := by
  obtain ⟨block, lines⟩ := List.forall_mem_cons.mp Grammar.markdown_lineLocal
  have nothing : Joined a b [] [] [] := ⟨.nil, nofun, nofun⟩
  have blocks := scanFrom_joined block nothing fun accepted c reached before m found => by
    -- A scan that starts with nothing accepts what it matches, so the match is a token.
    obtain ⟨t, reads⟩ := block.lawful.reads c m found
    have first := reached.accepts block.lawful found reads
    have clear := apart t (subset_foldl Grammar.markdown.tail _ _ first)
      (reads.type_eq)
    rw [reads.span_eq] at clear
    simp only at clear
    omega
  have joined := foldl_joined lines Grammar.inLine_of_tail blocks
  exact joined

end Plain

end MarkdownHighlight
