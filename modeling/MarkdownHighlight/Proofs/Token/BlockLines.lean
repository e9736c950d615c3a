import MarkdownHighlight.Proofs.Document.Slices
import MarkdownHighlight.Proofs.Grammar.Inline
import MarkdownHighlight.Proofs.Token.Shift

/-!
The tokens that take whole lines. A line that no code block covers carries such a
token exactly when it has a line form, and then one. What was claimed in the line
before is no obstacle: inline constructs stand in the content, other constructs
of whole lines would need another form, and every pattern comes to every line.
-/

namespace MarkdownHighlight

open Text (newline)
open Grammar (markdown)
open Regex (AllIn)

theorem getLast?_linesBefore (form : Text → Text) (lines : List Text) :
    ∀ ch, (linesBefore form lines).getLast? = some ch → ch = newline := by
  intro ch last
  rcases List.eq_nil_or_concat lines with rfl | ⟨others, line, rfl⟩
  · cases last
  · rw [linesBefore, List.concat_eq_append, List.flatMap_append, List.flatMap_singleton,
      ← List.append_assoc, List.getLast?_concat] at last
    exact (Option.some.inj last).symm

namespace Cursor

variable {c d e f : Cursor} {line w : Text}

theorem eq_of_offset (same : c.text = d.text) (offset : c.offset = d.offset) : c = d := by
  obtain ⟨w, walk⟩ := c.walk_of_offset_le d same (Nat.le_of_eq offset)
  have none : w = [] := by
    by_contra some
    have := walk.offset_lt_iff.mpr some
    omega
  subst none
  exact walk.eq_of_nil

theorem apart_or_inside (first : Assertion.lineStart.holds c = true)
    (last : Assertion.lineEnd.holds d = true) (within : d.text = c.text) (same : e.text = c.text)
    (walk : e.Walks w f) (clean : '\n' ∉ w) :
    f.offset ≤ c.offset ∨ d.offset ≤ e.offset ∨ (c.offset ≤ e.offset ∧ f.offset ≤ d.offset) := by
  by_cases before : f.offset ≤ c.offset
  · exact Or.inl before
  by_cases behind : d.offset ≤ e.offset
  · exact Or.inr (Or.inl behind)
  refine Or.inr (Or.inr ⟨?_, ?_⟩)
  · by_contra outside
    obtain ⟨v, reached⟩ := e.walk_of_offset_le c same (by omega)
    obtain ⟨u, rfl, _⟩ := reached.continue_of_le walk (by omega)
    have some := reached.offset_lt_iff.mp (by omega)
    have inside := reached.not_lineStart some fun ends => clean (List.mem_append_left u ends)
    rw [inside] at first
    cases first
  · by_contra outside
    obtain ⟨v, reached⟩ := e.walk_of_offset_le d (same.trans within.symm) (by omega)
    obtain ⟨u, rfl, onward⟩ := reached.continue_of_le walk (by omega)
    have none := onward.eq_nil_of_lineEnd (fun inside => clean (List.mem_append_right v inside))
      last
    have some := onward.offset_lt_iff.mp (by omega)
    exact some none

theorem Line.apart_or_same {other : Text} (here : c.Line d line) (there : e.Line f other)
    (same : e.text = c.text) :
    f.offset ≤ c.offset ∨ d.offset ≤ e.offset ∨ (e = c ∧ f = d ∧ other = line) := by
  have within := here.walk.text
  have within' := there.walk.text
  rcases apart_or_inside here.first here.last within same there.walk there.clean with
    before | behind | ⟨low, high⟩
  · exact Or.inl before
  · exact Or.inr (Or.inl behind)
  rcases apart_or_inside there.first there.last within' same.symm here.walk here.clean with
    behind | before | ⟨low', high'⟩
  · exact Or.inr (Or.inl behind)
  · exact Or.inl before
  obtain rfl := eq_of_offset same (Nat.le_antisymm low' low)
  obtain rfl := eq_of_offset (within'.trans within.symm) (Nat.le_antisymm high high')
  exact Or.inr (Or.inr ⟨rfl, rfl, there.walk.word_unique here.walk⟩)

theorem exists_line {text : Text} {ahead behind : List Text}
    (split : text.lines = ahead ++ line :: behind) :
    ∃ c d : Cursor, c.text = text ∧ c.offset = (linesBefore id ahead).size ∧ c.Line d line := by
  have whole := joinLines_around ahead [line] behind (List.cons_ne_nil line [])
  have shape : ahead ++ [line] ++ behind = text.lines := by simp [split]
  rw [shape, Text.joinLines_lines, Text.joinLines_singleton] at whole
  have clean := Text.newline_not_mem_of_mem_lines text line (by simp [split])
  obtain ⟨c, front, rest⟩ := (atStart text).exists_walk (linesBefore id ahead)
    (line ++ linesAfter id behind) (by rw [← List.append_assoc]; exact whole)
  obtain ⟨d, walk, after⟩ := c.exists_walk line (linesAfter id behind) rest
  refine ⟨c, d, front.text, ?_, walk, ?_, ?_, clean⟩
  · rw [front.offset]
    exact Nat.zero_add _
  · rw [Assertion.holds, previous?, front.before_eq, List.head?_append, List.head?_reverse]
    cases last : (linesBefore id ahead).getLast? with
    | none => rfl
    | some ch =>
        rw [getLast?_linesBefore id ahead ch last]
        rfl
  · rw [Assertion.holds, next?, after]
    cases behind with
    | nil => rfl
    | cons => rfl

end Cursor

namespace Plain

section Scan

variable {p : Pattern} {c s : Cursor} {m : Match} {t : Token} {accepted : List Token}

/-- A scan accepts what it finds at a place if no match goes over the place and
nothing that is accepted stands against it. -/
theorem mem_scanFrom (lawful : p.Lawful) (found : p.regex.matchAt? c = some m)
    (reads : p.Reads c m t) (same : s.text = c.text) (le : s.offset ≤ c.offset)
    (kept : ∀ e m', e.text = c.text → p.regex.matchAt? e = some m' → e.offset < c.offset →
      m'.stop.offset ≤ c.offset)
    (compatible : ∀ u ∈ scanFrom p accepted s, u = t ∨ t.nestsWith u = true) :
    t ∈ scanFrom p accepted s := by
  generalize bound : s.rest.length = n
  induction n using Nat.strongRecOn generalizing accepted s with
  | ind n ih =>
      by_cases here : s.offset = c.offset
      · obtain rfl := Cursor.eq_of_offset same here
        have present := subset_scanFrom p accepted s
        by_cases old : t ∈ accepted
        · exact present old
        · have admitted : admits accepted t = true := by
            apply List.all_eq_true.mpr
            intro u inside
            rcases compatible u (present inside) with rfl | nests
            · exact absurd inside old
            · exact nests
          have claimed := (claimAt?_eq_some_iff lawful t m.stop).mpr
            ⟨m, found, reads, admitted, rfl⟩
          rw [scanFrom_of_claim lawful claimed]
          exact subset_scanFrom _ _ _ (List.mem_append_right _ (List.mem_singleton_self t))
      · cases claimed : claimAt? p accepted s with
        | some claim =>
            obtain ⟨u, d⟩ := claim
            have shorter := rest_lt_of_claimAt? lawful claimed
            rw [scanFrom_of_claim lawful claimed] at compatible ⊢
            obtain ⟨m', found', reads', _, rfl⟩ := (claimAt?_eq_some_iff lawful u d).mp claimed
            obtain ⟨w, walk⟩ := reads'.walk
            exact ih _ (by omega) (walk.text.trans same) (kept s m' same found' (by omega))
              compatible rfl
        | none =>
            obtain ⟨w, walk⟩ := s.walk_of_offset_le c same le
            obtain ⟨ch, later, rfl⟩ := List.exists_cons_of_ne_nil
              (walk.offset_lt_iff.mp (by omega))
            obtain ⟨next, step, onward⟩ := Cursor.Walks.of_append (v := [ch]) (w := later) walk
            have forward := (Cursor.forward?_eq_some_iff s next).mpr ⟨ch, step⟩
            have shorter := Cursor.rest_of_forward? forward
            rw [scanFrom_of_step lawful forward claimed] at compatible ⊢
            exact ih _ (by omega) (step.text.trans same) onward.offset_le compatible rfl

theorem mem_accept {patterns : List Pattern} (member : p ∈ patterns) (lawful : p.Lawful)
    (found : p.regex.matchAt? c = some m) (reads : p.Reads c m t)
    (kept : ∀ e m', e.text = c.text → p.regex.matchAt? e = some m' → e.offset < c.offset →
      m'.stop.offset ≤ c.offset)
    (compatible : ∀ u ∈ accept patterns c.text, u = t ∨ t.nestsWith u = true) :
    t ∈ accept patterns c.text := by
  obtain ⟨before, after, rfl⟩ := List.append_of_mem member
  have shape : accept (before ++ p :: after) c.text = after.foldl
      (fun accepted q => scanFrom q accepted (.atStart c.text))
      (scanFrom p (accept before c.text) (.atStart c.text)) := by
    rw [accept, List.foldl_append, List.foldl_cons]
    rfl
  have subset := subset_foldl after c.text (scanFrom p (accept before c.text) (.atStart c.text))
  rw [shape] at compatible ⊢
  apply subset
  exact mem_scanFrom lawful found reads (Cursor.atStart_text _) (Nat.zero_le _) kept
    fun u inside => compatible u (subset inside)

end Scan

end Plain

namespace Grammar

theorem pattern?_of_mem : ∀ p ∈ markdown, pattern? p.type = some p := by
  simp only [markdown, List.forall_mem_cons]
  exact ⟨rfl, rfl, rfl, rfl, rfl, rfl, rfl, rfl, rfl, rfl, List.forall_mem_nil _⟩

theorem eq_of_type {p q : Pattern} (first : p ∈ markdown) (second : q ∈ markdown)
    (same : p.type = q.type) : p = q := by
  have found := pattern?_of_mem p first
  rw [same, pattern?_of_mem q second] at found
  exact (Option.some.inj found).symm

end Grammar

section Line

variable {p : Pattern} {c d : Cursor} {m : Match} {t u : Token} {line : Text}

/-- A token of a whole line that has a part in a line is read off that line. -/
theorem Plain.Sourced.at_line (sourced : Sourced markdown c.text u) (here : c.Line d line)
    (typed : u.type.isLine = true) (overlaps : u.span.disjoint ⟨c.offset, d.offset⟩ = false) :
    ∃ p ∈ markdown, ∃ m, p.regex.matchAt? c = some m ∧ p.Reads c m u ∧ m.stop = d ∧
      p.type = u.type ∧ c.SpellsLine d u.type := by
  obtain ⟨p, member, e, m, same, found, reads⟩ := sourced
  have type := reads.type_eq
  have readsLines := Grammar.markdown_readsLines p member (type ▸ typed)
  obtain ⟨kind, lead, content, filler, there, form, kindType⟩ := readsLines.spells e m found
  rw [Bool.eq_false_iff, ne_eq, Span.disjoint_iff, reads.span_eq] at overlaps
  rcases here.apart_or_same there same with before | behind | ⟨rfl, rfl, _⟩
  · exact absurd (Or.inl before) overlaps
  · exact absurd (Or.inr behind) overlaps
  · exact ⟨p, member, m, found, reads, rfl, type.symm,
      kind, lead, content, filler, there, form, kindType.trans type.symm⟩

theorem Token.nestsWith_of_content {inner : Span} (lines : t.type.isLine = true)
    (held : t.contentSpan? = some inner) (within : inner.contains u.span = true)
    (smaller : t.span.start < inner.start) : t.nestsWith u = true := by
  have visible : t.type.isOpaque = false := by
    cases type : t.type <;> rw [type] at lines <;> first | rfl | cases lines
  have other : t.span ≠ u.span := by
    intro same
    rw [Span.contains_iff, ← same] at within
    omega
  simp [Token.nestsWith, visible, held, within, other]

theorem codeBlock_lines {e : Cursor} (found : Grammar.codeBlock.regex.matchAt? e = some m) :
    Assertion.lineStart.holds e = true ∧ Assertion.lineEnd.holds m.stop = true := by
  obtain ⟨f, groups, first, rfl⟩ := Regex.matchAt?_eq_some found
  obtain ⟨_, _, _, atStart, _, _, _, _, _, _, _, _, _, _, _, _, _, _, atEnd, _⟩ :=
    Grammar.codeBlock_form first
  exact ⟨atStart, atEnd⟩

/-- Whatever else is read off a text nests with the token of a line that no code covers. -/
theorem nests_of_line {lead content filler : Text} (here : c.Line d (lead ++ content ++ filler))
    (form : LineForm t.kind lead content filler) (member : p ∈ markdown)
    (found : p.regex.matchAt? c = some m) (reads : p.Reads c m t) (stop : m.stop = d)
    (held : t.contentSpan? = some ⟨c.offset + lead.size, c.offset + (lead ++ content).size⟩)
    (lines : t.type.isLine = true) (sourced : Plain.Sourced markdown c.text u)
    (uncovered : u.type = .codeBlock → u.span.contains ⟨c.offset, d.offset⟩ = false) :
    u = t ∨ t.nestsWith u = true := by
  have span := reads.span_eq
  rw [stop] at span
  by_cases apart : t.span.disjoint u.span = true
  · exact Or.inr (Token.nestsWith_of_disjoint apart)
  have overlaps : u.span.disjoint ⟨c.offset, d.offset⟩ = false := by
    rw [Bool.eq_false_iff, ne_eq, ← span, Span.disjoint_iff]
    rw [Span.disjoint_iff] at apart
    omega
  by_cases typed : u.type.isLine = true
  · left
    obtain ⟨q, member', m', found', reads', _, type, kind, lead', content', filler', there, form',
      kindType⟩ := sourced.at_line here typed overlaps
    have same := form.type_unique form' (here.walk.word_unique there.walk)
    obtain rfl := Grammar.eq_of_type member' member (by
      rw [type, ← kindType, ← same, ← reads.type_eq]
      rfl)
    obtain rfl := Option.some.inj (found'.symm.trans found)
    exact Except.ok.inj (reads'.extracted.symm.trans reads.extracted)
  · right
    obtain ⟨q, member', e, m', same, found', reads'⟩ := sourced
    have type := reads'.type_eq
    rw [reads'.span_eq, Bool.eq_false_iff, ne_eq, Span.disjoint_iff] at overlaps
    simp only [not_or] at overlaps
    rcases List.mem_cons.mp member' with rfl | inTail
    · exfalso
      obtain ⟨atStart, atEnd⟩ := codeBlock_lines found'
      obtain ⟨v, walk⟩ := reads'.walk
      have outside := uncovered type
      rw [reads'.span_eq, Bool.eq_false_iff, ne_eq, Span.contains_iff] at outside
      have sides := Cursor.apart_or_inside atStart atEnd walk.text same.symm here.walk here.clean
      simp only at overlaps outside
      omega
    · obtain ⟨w, walk, inlined⟩ := Grammar.markdown_spellsInline q inTail
        (by rw [← type]; simpa using typed) e m' found'
      obtain ⟨c₂, front, tail⟩ := here.walk.of_append
      obtain ⟨c₁, front, text⟩ := front.of_append
      have sides := Cursor.apart_or_inside here.first here.last here.walk.text same walk inlined.clean
      obtain ⟨low, high⟩ := form.holds_inline front text tail same walk inlined (by omega) (by omega)
      obtain ⟨indent, ch, rest, leading, _⟩ := form.sign
      have led := front.offset_lt_iff.mpr (by simp [leading])
      have place := front.offset
      have place' := (front.trans text).offset
      apply Token.nestsWith_of_content lines held
      · rw [reads'.span_eq, Span.contains_iff]
        simp only
        omega
      · rw [span]
        simp only
        omega

structure Token.FillsLine (t : Token) (place : Nat) (line : Text) : Prop where
  source : t.source = ⟨place, line⟩
  form : ∃ lead content filler, line = lead ++ content ++ filler ∧
    LineForm t.kind lead content filler ∧
    t.contentSpan? = some ⟨place + lead.size, place + (lead ++ content).size⟩

theorem Pattern.Reads.fillsLine (reads : p.Reads c m t) (member : p ∈ markdown)
    (found : p.regex.matchAt? c = some m) (typed : t.type.isLine = true) (here : c.Line d line)
    (stop : m.stop = d) : t.FillsLine c.offset line := by
  have type := reads.type_eq
  have readsLines := Grammar.markdown_readsLines p member (type ▸ typed)
  obtain ⟨kind, lead, content, filler, there, form, kindType⟩ := readsLines.spells c m found
  rw [stop] at there
  obtain rfl := here.walk.word_unique there.walk
  obtain ⟨m', found', _, t', reads', rfl, held⟩ :=
    readsLines.reads c d kind lead content filler there form kindType
  obtain rfl := Option.some.inj (found'.symm.trans found)
  obtain rfl := Except.ok.inj (reads'.extracted.symm.trans reads.extracted)
  refine ⟨?_, lead, content, filler, rfl, form, held⟩
  rw [reads.source, stop, here.walk.excerptTo]

end Line

def HasForm (line : Text) (type : TokenType) : Prop :=
  ∃ kind lead content filler, line = lead ++ content ++ filler ∧
    LineForm kind lead content filler ∧ kind.type = type

def lineSpan (ahead : List Text) (line : Text) : Span :=
  ⟨(linesBefore id ahead).size, (linesBefore id ahead).size + line.size⟩

def Uncovered (text : Text) (s : Span) : Prop :=
  ∀ nodes, tokenize text = .ok nodes → ∀ t ∈ Node.tokensAll nodes, t.type = .codeBlock →
    t.span.contains s = false

instance (text : Text) (s : Span) : Decidable (Uncovered text s) :=
  match made : tokenize text with
  | .error _ => isTrue fun _ same => nomatch made.symm.trans same
  | .ok nodes =>
      decidable_of_iff (∀ t ∈ Node.tokensAll nodes, t.type = .codeBlock →
          t.span.contains s = false)
        ⟨fun outside _ same => Except.ok.inj (made.symm.trans same) ▸ outside,
          fun outside => outside nodes made⟩

def lineTokens (nodes : List Node) (s : Span) : List Token :=
  (Node.tokensAll nodes).filter fun t => t.type.isLine && !t.span.disjoint s

theorem mem_lineTokens (nodes : List Node) (s : Span) (t : Token) : t ∈ lineTokens nodes s ↔
    t ∈ Node.tokensAll nodes ∧ t.type.isLine = true ∧ t.span.disjoint s = false := by
  simp [lineTokens]

theorem Plain.mem_accept_of_form {c d : Cursor} {kind : TokenKind} {lead content filler : Text}
    (here : c.Line d (lead ++ content ++ filler)) (form : LineForm kind lead content filler)
    (uncovered : ∀ u ∈ accept markdown c.text, u.type = .codeBlock →
      u.span.contains ⟨c.offset, d.offset⟩ = false) :
    ∃ t ∈ accept markdown c.text, t.kind = kind ∧ t.span = ⟨c.offset, d.offset⟩ := by
  obtain ⟨p, member, type⟩ := Grammar.exists_pattern_of_isLine form.isLine
  have lawful := Grammar.markdown_lawful p member
  have readsLines := Grammar.markdown_readsLines p member (type ▸ form.isLine)
  obtain ⟨m, found, rfl, t, reads, rfl, held⟩ :=
    readsLines.reads c d kind lead content filler here form type.symm
  have kept : ∀ e m', e.text = c.text → p.regex.matchAt? e = some m' → e.offset < c.offset →
      m'.stop.offset ≤ c.offset := by
    intro e m' same found' before
    obtain ⟨_, _, _, _, there, _⟩ := readsLines.spells e m' found'
    have sides := Cursor.apart_or_inside here.first here.last here.walk.text same there.walk
      there.clean
    have order := here.walk.offset_le
    omega
  have nested := Plain.accept_nested markdown Grammar.markdown_lawful c.text
  refine ⟨t, mem_accept member lawful found reads kept fun u inside => ?_, rfl, reads.span_eq⟩
  exact nests_of_line here form member found reads rfl held form.isLine (nested.sourced u inside)
    (uncovered u inside)

theorem Plain.one_at_line {c d : Cursor} {line : Text} (here : c.Line d line) {t u : Token}
    (first : Sourced markdown c.text t) (second : Sourced markdown c.text u)
    (typed : t.type.isLine = true) (typed' : u.type.isLine = true)
    (overlaps : t.span.disjoint ⟨c.offset, d.offset⟩ = false)
    (overlaps' : u.span.disjoint ⟨c.offset, d.offset⟩ = false) : t = u := by
  obtain ⟨p, member, m, found, reads, _, type, _, _, _, _, there, form, kindType⟩ :=
    first.at_line here typed overlaps
  obtain ⟨q, member', m', found', reads', _, type', _, _, _, _, there', form', kindType'⟩ :=
    second.at_line here typed' overlaps'
  have same := form.type_unique form' (there.walk.word_unique there'.walk)
  obtain rfl := Grammar.eq_of_type member member' (by rw [type, type', ← kindType, ← kindType', same])
  obtain rfl := Option.some.inj (found'.symm.trans found)
  exact Except.ok.inj (reads.extracted.symm.trans reads'.extracted)

/-- The tokens of a text are what its patterns accept, in the order of their spans. -/
theorem tokenize_accepts (text : Text) : ∃ nodes, tokenize text = .ok nodes ∧
    (∀ t, t ∈ Node.tokensAll nodes ↔ t ∈ Plain.accept markdown text) ∧
    (Node.tokensAll nodes).Pairwise fun t u => t.span.precedes u.span = true := by
  obtain ⟨ts, same, orderly, grown, made⟩ := tokenizeWith_grown markdown Grammar.markdown_lawful text
  refine ⟨_, made, ?_⟩
  rw [Node.tokensAll_fillGaps, grown.tokens]
  exact ⟨fun t => same.mem_iff, orderly.arranged.imp And.left⟩

theorem length_le_one_of_precedes {ts : List Token}
    (ordered : ts.Pairwise fun t u => t.span.precedes u.span = true)
    (same : ∀ t ∈ ts, ∀ u ∈ ts, t = u) : ts.length ≤ 1 := by
  cases ts with
  | nil => exact Nat.zero_le 1
  | cons t later =>
      cases later with
      | nil => exact Nat.le_refl 1
      | cons u others =>
          obtain rfl := same t List.mem_cons_self u (by simp)
          have order := (List.pairwise_cons.mp ordered).1 t List.mem_cons_self
          rw [Span.precedes_irrefl] at order
          cases order

/-- A line that no code block covers carries a token of a whole line exactly when
it has the form of one. There is one such token then; it takes the line from end
to end, and its content and all that its kind tells are read off the form. -/
theorem tokenize_block_line {text line : Text} {ahead behind : List Text}
    (split : text.lines = ahead ++ line :: behind)
    (uncovered : Uncovered text (lineSpan ahead line)) :
    ∃ nodes, tokenize text = .ok nodes ∧
      (∀ t ∈ lineTokens nodes (lineSpan ahead line),
        t.FillsLine (lineSpan ahead line).start line) ∧
      (lineTokens nodes (lineSpan ahead line)).length ≤ 1 ∧
      ∀ type, (∃ t ∈ lineTokens nodes (lineSpan ahead line), t.type = type) ↔
        HasForm line type := by
  obtain ⟨c, d, rfl, place, here⟩ := Cursor.exists_line split
  have stop := here.walk.offset
  have span : lineSpan ahead line = ⟨c.offset, d.offset⟩ := by rw [lineSpan, ← place, ← stop]
  obtain ⟨nodes, made, tokens, ordered⟩ := tokenize_accepts c.text
  have sourced := (Plain.accept_nested markdown Grammar.markdown_lawful c.text).sourced
  have known : ∀ t ∈ lineTokens nodes (lineSpan ahead line),
      Plain.Sourced markdown c.text t ∧ t.type.isLine = true ∧
        t.span.disjoint ⟨c.offset, d.offset⟩ = false := by
    intro t member
    rw [mem_lineTokens, tokens, span] at member
    exact ⟨sourced t member.1, member.2⟩
  have fills : ∀ t ∈ lineTokens nodes (lineSpan ahead line),
      t.FillsLine (lineSpan ahead line).start line := by
    intro t member
    obtain ⟨source, typed, overlaps⟩ := known t member
    obtain ⟨p, inGrammar, m, found, reads, stops, _⟩ := source.at_line here typed overlaps
    rw [span]
    exact reads.fillsLine inGrammar found typed here stops
  refine ⟨nodes, made, fills, ?one, fun type => ⟨?form, ?token⟩⟩
  case one =>
    apply length_le_one_of_precedes (ordered.filter _)
    intro t member u member'
    obtain ⟨source, typed, overlaps⟩ := known t member
    obtain ⟨source', typed', overlaps'⟩ := known u member'
    exact Plain.one_at_line here source source' typed typed' overlaps overlaps'
  case form =>
    rintro ⟨t, member, rfl⟩
    obtain ⟨lead, content, filler, shape, form, _⟩ := (fills t member).form
    exact ⟨t.kind, lead, content, filler, shape, form, rfl⟩
  case token =>
    rintro ⟨kind, lead, content, filler, rfl, form, rfl⟩
    have outside : ∀ u ∈ Plain.accept markdown c.text, u.type = .codeBlock →
        u.span.contains ⟨c.offset, d.offset⟩ = false := by
      intro u present code
      rw [← span]
      exact uncovered nodes made u ((tokens u).mpr present) code
    obtain ⟨t, present, rfl, within⟩ := Plain.mem_accept_of_form here form outside
    refine ⟨t, ?_, rfl⟩
    rw [mem_lineTokens, tokens, span, within]
    refine ⟨present, form.isLine, ?_⟩
    obtain ⟨indent, ch, rest, rfl, _⟩ := form.sign
    have moved := here.walk.offset_lt_iff.mpr (by simp)
    rw [Bool.eq_false_iff, ne_eq, Span.disjoint_iff]
    simp only
    omega

/-- A quotation behind a code block, with inline markup in it. -/
theorem tokenize_block_line_quoted :
    let text : Text := "```\n> x\n```\n\t> > *a* `b`\r\n- c".toList
    let ahead : List Text := ["```".toList, "> x".toList, "```".toList]
    let line : Text := "\t> > *a* `b`\r".toList
    text.lines = ahead ++ line :: ["- c".toList] ∧ Uncovered text (lineSpan ahead line) ∧
      ∃ nodes t, tokenize text = .ok nodes ∧ lineTokens nodes (lineSpan ahead line) = [t] ∧
        t.type = .blockquote ∧ t.FillsLine 12 line := by
  intro text ahead line
  have split : text.lines = ahead ++ line :: ["- c".toList] := by decide +kernel
  have uncovered : Uncovered text (lineSpan ahead line) := by decide +kernel
  have signs : QuoteSigns "*a* `b`\r".toList [['>', ' '], ['>', ' ']] := by
    refine .spaced (.spaced (.none ?_) rfl) rfl
    intro ch head
    rw [← Option.some.inj head]
    decide
  have blanks : AllIn Grammar.spaceOrTab ['\t'] := by decide
  have within : AllIn Grammar.inLine "*a* `b`".toList := by decide
  have form : HasForm line .blockquote := ⟨_, _, _, _, rfl,
    .blockquote blanks (List.cons_ne_nil _ _) signs within (.inr rfl), rfl⟩
  obtain ⟨nodes, made, fills, one, forms⟩ := tokenize_block_line split uncovered
  obtain ⟨t, member, type⟩ := (forms .blockquote).mpr form
  refine ⟨split, uncovered, nodes, t, made, ?_, type, fills t member⟩
  obtain ⟨only, single⟩ := List.length_eq_one_iff.mp
    (Nat.le_antisymm one (List.length_pos_of_mem member))
  rw [single] at member ⊢
  rw [List.mem_singleton.mp member]

end MarkdownHighlight
