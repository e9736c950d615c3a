import MarkdownHighlight.Proofs.Claim.Joined
import MarkdownHighlight.Proofs.Grammar.Escaped
import MarkdownHighlight.Proofs.Markup.Faithful
import MarkdownHighlight.Proofs.Markup.Joined

/-!
Markup is its own markup. Either a construct was found and the markup shows it,
or none was, and then the escaped text has none either and is not escaped again.
Escaping keeps the lines of a document, so the same lines are selected from it.
-/

namespace MarkdownHighlight

open Text (newline joinLines)

namespace Plain

variable {p : Pattern} {c : Cursor}

theorem claimAt?_nil_eq_none_iff (lawful : p.Lawful) :
    claimAt? p [] c = none ↔ p.regex.matchAt? c = none := by
  constructor
  · intro refused
    cases found : p.regex.matchAt? c with
    | none => rfl
    | some m =>
        obtain ⟨t, reads⟩ := lawful.reads c m found
        have claimed : claimAt? p [] c = some (t, m.stop) :=
          (claimAt?_eq_some_iff lawful t m.stop).mpr ⟨m, found, reads, List.all_nil, rfl⟩
        rw [refused] at claimed
        cases claimed
  · intro missing
    rw [claimAt?, missing]

theorem refused_of_scanFrom_nil (lawful : p.Lawful) (nothing : scanFrom p [] c = []) :
    claimAt? p [] c = none := by
  cases claimed : claimAt? p [] c with
  | none => rfl
  | some claim =>
      rw [scanFrom_of_claim lawful claimed] at nothing
      have kept := subset_scanFrom p ([] ++ [claim.1]) claim.2
      rw [nothing] at kept
      exact absurd (kept (List.mem_singleton_self _)) List.not_mem_nil

theorem scanFrom_nil_eq_nil_iff (lawful : p.Lawful) :
    scanFrom p [] c = [] ↔ ∀ w d, c.Walks w d → p.regex.matchAt? d = none := by
  constructor
  · intro nothing w
    induction w generalizing c with
    | nil =>
        intro d walk
        rw [← walk.eq_of_nil, ← claimAt?_nil_eq_none_iff lawful]
        exact refused_of_scanFrom_nil lawful nothing
    | cons ch w ih =>
        intro d walk
        obtain ⟨next, step, onward⟩ := Cursor.Walks.of_append (v := [ch]) (w := w) walk
        have forward := (Cursor.forward?_eq_some_iff c next).mpr ⟨ch, step⟩
        have refused := refused_of_scanFrom_nil lawful nothing
        rw [scanFrom_of_step lawful forward refused] at nothing
        exact ih nothing d onward
  · intro missing
    obtain ⟨d, walk, ended⟩ := c.exists_walk c.rest [] (by simp)
    rw [scanFrom_of_walk lawful walk fun v e u reached _ _ =>
      (claimAt?_nil_eq_none_iff lawful).mpr (missing v e reached)]
    exact scanFrom_at_end ended

theorem accept_eq_nil_iff_scanFrom (patterns : List Pattern) (text : Text) :
    accept patterns text = [] ↔ ∀ p ∈ patterns, scanFrom p [] (.atStart text) = [] := by
  induction patterns with
  | nil => simp [accept]
  | cons p later ih =>
      rw [List.forall_mem_cons, ← ih]
      constructor
      · intro nothing
        have kept := subset_foldl later text (scanFrom p [] (.atStart text))
        have first : scanFrom p [] (.atStart text) = [] :=
          List.subset_nil.mp (List.Subset.trans kept (List.subset_nil.mpr nothing))
        refine ⟨first, ?_⟩
        rwa [accept, List.foldl_cons, first] at nothing
      · rintro ⟨first, others⟩
        rwa [accept, List.foldl_cons, first]

theorem accept_eq_nil_iff (patterns : List Pattern) (lawful : ∀ p ∈ patterns, p.Lawful)
    (text : Text) : accept patterns text = [] ↔
      ∀ p ∈ patterns, ∀ c : Cursor, c.text = text → p.regex.matchAt? c = none := by
  rw [accept_eq_nil_iff_scanFrom]
  refine forall₂_congr fun p member => ?_
  rw [scanFrom_nil_eq_nil_iff (lawful p member)]
  constructor
  · rintro missing c rfl
    obtain ⟨w, walk⟩ := (Cursor.atStart c.text).walk_of_offset_le c rfl (Nat.zero_le _)
    exact missing w c walk
  · intro missing w d walk
    exact missing d walk.text

end Plain

namespace Markup

structure Unmarked (text : Text) : Prop where
  fresh : isRendered text = false
  bare : Plain.accept Grammar.markdown text = []

theorem isRendered_of_escape (text : Text) (marked : isRendered (escape text) = true) :
    isRendered text = true := by
  rw [isRendered, Text.occursIn_iff] at marked ⊢
  obtain ⟨u, v, whole⟩ := marked
  have escaped := Escaped.of_escape text
  rw [← whole, List.append_assoc] at escaped
  have first : inReference 'c' = false := by decide
  have last : inReference '-' = false := by decide
  obtain ⟨u', rest, rfl, _, escaped⟩ := escaped.split fun a b _ next => by
    cases next
    exact Or.inr first
  obtain ⟨mark, v', rfl, kept, _⟩ := escaped.split fun a b ended _ => by
    cases ended
    exact Or.inl last
  rw [kept.eq_of_kept (by decide), ← List.append_assoc]
  exact ⟨u', v', rfl⟩

theorem isRendered_escape {text : Text} (fresh : isRendered text = false) :
    isRendered (escape text) = false := by
  rw [Bool.eq_false_iff, ne_eq] at fresh ⊢
  exact fun marked => fresh (isRendered_of_escape text marked)

theorem Unmarked.escape {text : Text} (unmarked : Unmarked text) : Unmarked (escape text) where
  fresh := isRendered_escape unmarked.fresh
  bare := by
    have lawful := Grammar.markdown_lawful
    have bare := (Plain.accept_eq_nil_iff _ lawful text).mp unmarked.bare
    rw [Plain.accept_eq_nil_iff _ lawful]
    intro p member e same
    cases found : p.regex.matchAt? e with
    | none => rfl
    | some m =>
        have escaped : Escaped text e.text := same ▸ Escaped.of_escape text
        obtain ⟨c, m', inText, found'⟩ := Grammar.markdown_unescapes p member text e m escaped found
        rw [bare p member c inText] at found'
        cases found'

theorem isRendered_of_infix {part markup : Text} (inside : part <:+: markup)
    (marked : isRendered part = true) : isRendered markup = true := by
  rw [isRendered, Text.occursIn_iff] at marked ⊢
  exact marked.trans inside

theorem isRendered_tagged (kind : TokenKind) (inner : Text) :
    isRendered (tagged (tokenClasses kind) inner) = true := by
  have named : ∃ more, tokenClasses kind = "md-" ++ more := by
    rw [tokenClasses]
    cases kind.level? with
    | none => exact ⟨_, rfl⟩
    | some level =>
        simp only [String.append_assoc]
        exact ⟨_, rfl⟩
  obtain ⟨more, named⟩ := named
  rw [isRendered, Text.occursIn_iff, tagged, openTag, named]
  refine ⟨"<span ".toList, more.toList ++ "\">".toList ++ inner ++ closeTag, ?_⟩
  have opening : "<span class=\"".toList ++ "md-".toList = "<span ".toList ++ renderedMarker := rfl
  simp only [String.toList_append, ← List.append_assoc, opening]

/-- The markup of a text that is not the escaped text shows a token. -/
theorem render_cases (text : Text) :
    (∃ markup, render text = .ok markup ∧ isRendered markup = true) ∨
      (Unmarked text ∧ render text = .ok (escape text)) := by
  by_cases done : isRendered text = true
  · exact Or.inl ⟨text, by rw [render, renderWith, if_pos done], done⟩
  · have fresh : isRendered text = false := by simpa using done
    obtain ⟨ts, same, orderly, _, made⟩ :=
      tokenizeWith_grown Grammar.markdown Grammar.markdown_lawful text
    have rendered := render_of_tokenize fresh made
    cases ts with
    | nil =>
        right
        refine ⟨⟨fresh, List.nil_perm.mp same⟩, ?_⟩
        rw [rendered, Node.nest, List.foldr_nil, renderNodes_fillGaps_nil]
        rfl
    | cons t later =>
        refine Or.inl ⟨_, rendered, ?_⟩
        obtain ⟨children, after, placed⟩ : ∃ children after,
            Node.nest (t :: later) = .token t children :: after := ⟨_, _, rfl⟩
        rw [placed, renderNodes_fillGaps_cons, renderNode]
        exact isRendered_of_infix (List.infix_append' ..) (isRendered_tagged t.kind _)

theorem Unmarked.render {text : Text} (unmarked : Unmarked text) :
    render text = .ok (Markup.escape text) := by
  obtain ⟨ts, same, _, _, made⟩ :=
    tokenizeWith_grown Grammar.markdown Grammar.markdown_lawful text
  rw [unmarked.bare] at same
  rw [same.eq_nil, Node.nest, List.foldr_nil] at made
  rw [render_of_tokenize unmarked.fresh made, renderNodes_fillGaps_nil]
  rfl

section Lines

theorem escape_joinLines (ls : List Text) : escape (joinLines ls) = joinLines (ls.map escape) := by
  induction ls with
  | nil => rfl
  | cons line later ih =>
      by_cases last : later = []
      · rw [last, List.map_singleton, Text.joinLines_singleton, Text.joinLines_singleton]
      · rw [Text.joinLines_cons _ _ last, escape_newline, ih, List.map_cons,
          Text.joinLines_cons _ _ (by simpa using last)]

theorem lines_escape (text : Text) : (escape text).lines = text.lines.map escape := by
  have whole := escape_joinLines text.lines
  rw [Text.joinLines_lines] at whole
  rw [whole, Text.lines_joinLines _ (by simp [Text.lines_ne_nil])]
  intro line member
  obtain ⟨plain, inside, rfl⟩ := List.mem_map.mp member
  exact newline_not_mem_escape plain (Text.newline_not_mem_of_mem_lines text plain inside)

theorem select_escape (n : Narrowing) (lines : List Text) (viewport? : Option Viewport) :
    n.select (lines.map escape) viewport? =
      ⟨escape (n.select lines viewport?).content, (n.select lines viewport?).start,
        (n.select lines viewport?).stop⟩ := by
  cases viewport? with
  | none => simp [Narrowing.select, escape_joinLines]
  | some v =>
      simp only [Narrowing.select, List.length_map, List.isEmpty_map]
      split
      · simp [escape_joinLines]
      · simp [escape_joinLines, List.map_take, List.map_drop]

end Lines

section Document

variable (n : Narrowing) (text : Text) (viewport? : Option Viewport)

/-- A slice that reaches over the document has no lines around it. -/
theorem renderDocument_of_fresh (fresh : isRendered text = false) :
    renderDocument n text viewport? =
      (render (n.select text.lines viewport?).content).map fun middle =>
        linesBefore escape (text.lines.take (n.select text.lines viewport?).start) ++ middle ++
          linesAfter escape (text.lines.drop ((n.select text.lines viewport?).stop + 1)) := by
  have whole := n.text_eq text viewport?
  rw [renderDocument, renderDocumentWith, fresh]
  simp only [Bool.false_eq_true, if_false]
  split
  · rename_i full
    simp only [LineSlice.isFull, Bool.and_eq_true, beq_iff_eq, decide_eq_true_eq] at full
    rw [full.1, List.take_zero, List.drop_of_length_le full.2] at whole ⊢
    simp only [linesBefore, linesAfter, List.flatMap_nil, List.nil_append,
      List.append_nil] at whole ⊢
    rw [← whole, ← render]
    cases render text <;> rfl
  · rw [← render]
    cases render (n.select text.lines viewport?).content <;> rfl

theorem renderDocument_of_unmarked (fresh : isRendered text = false)
    (unmarked : Unmarked (n.select text.lines viewport?).content) :
    renderDocument n text viewport? = .ok (escape text) := by
  rw [renderDocument_of_fresh n text viewport? fresh, unmarked.render, Except.map,
    ← escape_around, ← n.text_eq text viewport?]

theorem renderDocument_cases :
    (∃ markup, renderDocument n text viewport? = .ok markup ∧ isRendered markup = true) ∨
      (isRendered text = false ∧ Unmarked (n.select text.lines viewport?).content ∧
        renderDocument n text viewport? = .ok (escape text)) := by
  by_cases done : isRendered text = true
  · exact Or.inl ⟨text, by rw [renderDocument, renderDocumentWith, if_pos done, renderWith,
      if_pos done], done⟩
  · have fresh : isRendered text = false := by simpa using done
    rcases render_cases (n.select text.lines viewport?).content with
      ⟨middle, rendered, marked⟩ | ⟨unmarked, _⟩
    · left
      rw [renderDocument_of_fresh n text viewport? fresh, rendered]
      exact ⟨_, rfl, isRendered_of_infix (List.infix_append ..) marked⟩
    · exact Or.inr ⟨fresh, unmarked, renderDocument_of_unmarked n text viewport? fresh unmarked⟩

end Document

/-- Rendering what was rendered changes nothing, neither for a text nor for a document
in any viewport. -/
theorem render_idempotent :
    (∀ text, ∃ markup, render text = .ok markup ∧ render markup = .ok markup) ∧
      ∀ (n : Narrowing) (text : Text) (viewport? : Option Viewport),
        ∃ markup, renderDocument n text viewport? = .ok markup ∧
          renderDocument n markup viewport? = .ok markup := by
  constructor
  · intro text
    rcases render_cases text with ⟨markup, rendered, marked⟩ | ⟨unmarked, rendered⟩
    · exact ⟨markup, rendered, by rw [render, renderWith, if_pos marked]⟩
    · refine ⟨escape text, rendered, ?_⟩
      rw [unmarked.escape.render, escape_escape]
  · intro n text viewport?
    rcases renderDocument_cases n text viewport? with
      ⟨markup, rendered, marked⟩ | ⟨fresh, unmarked, rendered⟩
    · exact ⟨markup, rendered, by rw [renderDocument, renderDocumentWith, if_pos marked, renderWith,
        if_pos marked]⟩
    · refine ⟨escape text, rendered, ?_⟩
      have selected := select_escape n text.lines viewport?
      rw [← lines_escape] at selected
      have again : Unmarked (n.select (escape text).lines viewport?).content := by
        rw [selected]
        exact unmarked.escape
      rw [renderDocument_of_unmarked n _ viewport? (isRendered_escape fresh) again, escape_escape]

end Markup

end MarkdownHighlight
