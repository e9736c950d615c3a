import MarkdownHighlight.Proofs.Grammar.Lawful
import MarkdownHighlight.Proofs.Grammar.Matches
import MarkdownHighlight.Proofs.Markup.Escaped

/-!
Escaping makes no construct. The signs that a construct is known by are none of
the characters of a reference, so the places between its parts are clear, and what
stands between them is allowed in the text as its escaped form is allowed there.
Whatever a pattern matches in an escaped text it thus matches in the text itself.
-/

namespace MarkdownHighlight

open Markup (Absorbs Escaped Replacement inReference)
open Regex (AllIn Between)

theorem foreign_of_allIn {set : CharSet} {w : Text}
    (strange : ∀ ch ∈ "&ltgamp;".toList, set.test ch = false) (all : AllIn set w) :
    ∀ ch ∈ w, inReference ch = false := by
  intro ch inside
  rw [inReference, ← Regex.test_oneOf]
  exact all.apart _ strange ch inside

theorem kept_of_foreign {w : Text} (foreign : ∀ ch ∈ w, inReference ch = false) : '&' ∉ w := by
  intro inside
  exact absurd (foreign '&' inside) (by decide)

theorem between_iff {ends middle : CharSet}
    (inner : ∀ ch, ends.test ch = true → middle.test ch = true) (w : Text) :
    Between ends middle w ↔ w ≠ [] ∧ AllIn middle w ∧
      (∀ ch, w.head? = some ch → ends.test ch = true) ∧
      ∀ ch, w.getLast? = some ch → ends.test ch = true := by
  constructor
  · rintro ⟨first, later, atFirst, rfl, rfl | ⟨body, last, rfl, all, atLast⟩⟩
    · simp [AllIn, atFirst, inner first atFirst]
    · refine ⟨by simp, ?_, by simpa using atFirst, ?_⟩
      · intro ch inside
        rcases List.mem_cons.mp inside with rfl | within
        · exact inner _ atFirst
        · rcases List.mem_append.mp within with middle | ended
          · exact all ch middle
          · rw [List.mem_singleton.mp ended]
            exact inner last atLast
      · intro ch ended
        rw [← List.cons_append, List.getLast?_concat] at ended
        rwa [← Option.some.inj ended]
  · rintro ⟨some, all, atFirst, atLast⟩
    obtain ⟨first, later, rfl⟩ := List.exists_cons_of_ne_nil some
    refine ⟨first, later, atFirst first rfl, rfl, ?_⟩
    by_cases alone : later = []
    · exact Or.inl alone
    · have split := List.dropLast_concat_getLast alone
      refine Or.inr ⟨later.dropLast, later.getLast alone, split.symm, ?_, ?_⟩
      · intro ch inside
        exact all ch (List.mem_cons_of_mem first (List.dropLast_subset later inside))
      · apply atLast
        rw [List.getLast?_cons, List.getLast?_eq_some_getLast alone]
        rfl

theorem between_of_escaped {ends middle : CharSet} {w w' : Text}
    (inner : ∀ ch, ends.test ch = true → middle.test ch = true)
    (edges : ∀ ch ∈ ['<', '>', '&'], ends.test ch = true) (absorbs : Absorbs middle)
    (escaped : Escaped w' w) (between : Between ends middle w) : Between ends middle w' := by
  rw [between_iff inner] at between ⊢
  obtain ⟨some, all, atFirst, atLast⟩ := between
  have replaced : ∀ {ch name}, Replacement ch name → ends.test ch = true := by
    intro ch name replacement
    cases replacement <;> exact edges _ (by simp)
  refine ⟨fun none => some (escaped.eq_nil_iff.mp none), escaped.allIn absorbs all, ?_, ?_⟩
  · intro ch first
    rcases escaped.head?_cases with kept | ⟨ch', name, replacement, first', _⟩
    · exact atFirst ch (kept ▸ first)
    · rw [first'] at first
      exact Option.some.inj first ▸ replaced replacement
  · intro ch last
    rcases escaped.getLast?_cases with kept | ⟨ch', name, replacement, last', _⟩
    · exact atLast ch (kept ▸ last)
    · rw [last'] at last
      exact Option.some.inj last ▸ replaced replacement

/-- Has a match in an escaped text only if it has one in the text. -/
def Pattern.Unescapes (p : Pattern) : Prop :=
  ∀ (t : Text) (e : Cursor) (m : Match), Escaped t e.text → p.regex.matchAt? e = some m →
    ∃ (c : Cursor) (m' : Match), c.text = t ∧ p.regex.matchAt? c = some m'

namespace Grammar

theorem codeInline_unescapes : codeInline.Unescapes := by
  intro t e m escaped found
  obtain ⟨f, groups, first, rfl⟩ := Regex.matchAt?_eq_some found
  obtain ⟨e₁, w, e₂, opening, some, content, all, closing, _⟩ :=
    codeInline_form (List.mem_of_mem_head? first)
  simp only at closing
  obtain ⟨c, text, answers⟩ :=
    Cursor.exists_escapesTo escaped (opening.clear_before (by simp) (by decide))
  obtain ⟨c₁, opening', answers₁⟩ :=
    answers.walk_kept opening (opening.clear_after (by simp) (by decide)) (by decide)
  obtain ⟨w', c₂, content', answers₂, inner⟩ :=
    answers₁.walk content (closing.clear_before (by simp) (by decide))
  obtain ⟨d, closing', _⟩ :=
    answers₂.walk_kept closing (closing.clear_after (by simp) (by decide)) (by decide)
  obtain ⟨m, matched⟩ := codeInline_matches opening' (fun none => some (inner.eq_nil_iff.mp none))
    content' (inner.allIn (by decide) all) closing'
  exact ⟨c, m, text, matched⟩

theorem header_unescapes : header.Unescapes := by
  intro t e m escaped found
  obtain ⟨f, groups, first, rfl⟩ := Regex.matchAt?_eq_some found
  obtain ⟨hashes, e₁, gap, e₂, content, e₃, filler, atStart, some, few, signs, marker, wide, blanks,
    space, inLine, text, filling, tail, atEnd, _⟩ := header_form (List.mem_of_mem_head? first)
  simp only at tail atEnd
  have hashForeign := foreign_of_allIn (by decide) signs
  have gapForeign := foreign_of_allIn (by decide) blanks
  have fillerForeign := foreign_of_allIn (by decide) filling
  have ended := Cursor.clear_of_lineEnd atEnd
  obtain ⟨c, same, answers⟩ := Cursor.exists_escapesTo escaped (Cursor.clear_of_lineStart atStart)
  obtain ⟨c₁, marker', answers₁⟩ := answers.walk_kept marker (marker.clear_after some hashForeign)
    (kept_of_foreign hashForeign)
  obtain ⟨c₂, space', answers₂⟩ := answers₁.walk_kept space (space.clear_after wide gapForeign)
    (kept_of_foreign gapForeign)
  obtain ⟨content', c₃, text', answers₃, inner⟩ :=
    answers₂.walk text (tail.clear_left fillerForeign ended)
  obtain ⟨d, tail', answers'⟩ := answers₃.walk_kept tail ended (kept_of_foreign fillerForeign)
  obtain ⟨m, matched⟩ := header_matches (answers.lineStart.trans atStart) some few signs marker'
    wide blanks space' (inner.allIn (by decide) inLine) text' filling tail'
    (answers'.lineEnd.trans atEnd)
  exact ⟨c, m, same, matched⟩

namespace Delimited

variable {marker : Text} {index : Nat} {ends middle : CharSet} {c e : Cursor} {q : Progress}

theorem clear (form : Delimited marker index ends middle e q) (some : marker ≠ [])
    (foreign : ∀ ch ∈ marker, inReference ch = false) : e.IsClear := by
  obtain ⟨e₁, w, e₂, opening, _⟩ := form
  exact opening.clear_before some foreign

theorem of_escapesTo (form : Delimited marker index ends middle e q) (some : marker ≠ [])
    (foreign : ∀ ch ∈ marker, inReference ch = false)
    (inner : ∀ ch, ends.test ch = true → middle.test ch = true)
    (edges : ∀ ch ∈ ['<', '>', '&'], ends.test ch = true) (absorbs : Absorbs middle)
    (answers : c.EscapesTo e) :
    ∃ q', Delimited marker index ends middle c q' ∧ q'.cursor.EscapesTo q.cursor := by
  obtain ⟨e₁, w, e₂, opening, between, content, closing, _⟩ := form
  have kept := kept_of_foreign foreign
  obtain ⟨c₁, opening', answers₁⟩ :=
    answers.walk_kept opening (opening.clear_after some foreign) kept
  obtain ⟨w', c₂, content', answers₂, within⟩ :=
    answers₁.walk content (closing.clear_before some foreign)
  obtain ⟨d, closing', answers'⟩ :=
    answers₂.walk_kept closing (closing.clear_after some foreign) kept
  exact ⟨⟨d, [(index + 2, c₂, d), (index + 1, c₁, c₂), (index, c, c₁)]⟩, ⟨c₁, w', c₂, opening',
    between_of_escaped inner edges absorbs within between, content', closing', rfl⟩, answers'⟩

end Delimited

theorem notNewline_of_edge {marker ch : Char} (atEdge : (edge marker).test ch = true) :
    notNewline.test ch = true := by
  by_cases newline : ch = '\n'
  · subst newline
    have blank : Text.isBlank '\n' = true := by decide
    simp [edge, CharSet.ofItems, CharSet.test, blank] at atEdge
  · simp [notNewline, CharSet.test, newline]

theorem inner_of_edge {marker ch : Char} {others : String} (spelled : others.toList = [marker, '\n'])
    (atEdge : (edge marker).test ch = true) :
    (CharSet.complement (.oneOf others)).test ch = true := by
  have line := notNewline_of_edge atEdge
  simp only [notNewline, CharSet.test, Bool.not_eq_true', beq_eq_false_iff_ne] at line
  have other : ch ≠ marker := by
    rintro rfl
    simp [edge, CharSet.ofItems, CharSet.test] at atEdge
  simp [CharSet.test, spelled, line, other]

theorem bold_unescapes : bold.Unescapes := by
  intro t e m escaped found
  obtain ⟨f, groups, first, rfl⟩ := Regex.matchAt?_eq_some found
  rcases bold_form (List.mem_of_mem_head? first) with form | ⟨form, before, after⟩
  · obtain ⟨c, text, answers⟩ :=
      Cursor.exists_escapesTo escaped (form.clear (by simp) (by decide))
    obtain ⟨q, form', _⟩ := form.of_escapesTo (by simp) (by decide)
      (fun _ => notNewline_of_edge) (by decide) (by decide) answers
    obtain ⟨m, matched⟩ := bold_matches (Or.inl form')
    exact ⟨c, m, text, matched⟩
  · obtain ⟨c, text, answers⟩ :=
      Cursor.exists_escapesTo escaped (form.clear (by simp) (by decide))
    obtain ⟨q, form', answers'⟩ := form.of_escapesTo (by simp) (by decide)
      (fun _ => notNewline_of_edge) (by decide) (by decide) answers
    obtain ⟨m, matched⟩ := bold_matches (Or.inr ⟨form', answers.wordBoundary.trans before,
      answers'.wordBoundary.trans after⟩)
    exact ⟨c, m, text, matched⟩

theorem italic_unescapes : italic.Unescapes := by
  intro t e m escaped found
  obtain ⟨f, groups, first, rfl⟩ := Regex.matchAt?_eq_some found
  rcases italic_form (List.mem_of_mem_head? first) with form | ⟨form, before, after⟩
  · obtain ⟨c, text, answers⟩ :=
      Cursor.exists_escapesTo escaped (form.clear (by simp) (by decide))
    obtain ⟨q, form', _⟩ := form.of_escapesTo (by simp) (by decide)
      (fun _ => inner_of_edge rfl) (by decide) (by decide) answers
    obtain ⟨m, matched⟩ := italic_matches (Or.inl form')
    exact ⟨c, m, text, matched⟩
  · obtain ⟨c, text, answers⟩ :=
      Cursor.exists_escapesTo escaped (form.clear (by simp) (by decide))
    obtain ⟨q, form', answers'⟩ := form.of_escapesTo (by simp) (by decide)
      (fun _ => inner_of_edge rfl) (by decide) (by decide) answers
    obtain ⟨m, matched⟩ := italic_matches (Or.inr ⟨form', answers.wordBoundary.trans before,
      answers'.wordBoundary.trans after⟩)
    exact ⟨c, m, text, matched⟩

theorem strikethrough_unescapes : strikethrough.Unescapes := by
  intro t e m escaped found
  obtain ⟨f, groups, first, rfl⟩ := Regex.matchAt?_eq_some found
  have form := strikethrough_form (List.mem_of_mem_head? first)
  obtain ⟨c, text, answers⟩ :=
    Cursor.exists_escapesTo escaped (form.clear (by simp) (by decide))
  obtain ⟨q, form', _⟩ := form.of_escapesTo (by simp) (by decide)
    (fun _ => inner_of_edge rfl) (by decide) (by decide) answers
  obtain ⟨m, matched⟩ := strikethrough_matches form'
  exact ⟨c, m, text, matched⟩

theorem linkOpening_foreign {opening : Text} (spelled : LinkOpening opening) :
    opening ≠ [] ∧ ∀ ch ∈ opening, inReference ch = false := by
  rcases spelled with rfl | rfl <;> decide

theorem linkTitle_of_escaped {title w : Text} (escaped : Escaped w title)
    (formed : LinkTitle title) : LinkTitle w := by
  rcases formed with rfl | ⟨gap, words, rfl, wide, blanks, inside⟩
  · exact Or.inl (escaped.eq_nil_iff.mpr rfl)
  · have foreign := foreign_of_allIn (by decide) blanks
    have quote : inReference '"' = false := by decide
    have shape : gap ++ '"' :: words ++ ['"'] = gap ++ (['"'] ++ (words ++ ['"'])) := by simp
    rw [shape] at escaped
    obtain ⟨gap', v, rfl, first, escaped⟩ := escaped.split fun a b _ next => by
      cases next
      exact Or.inr quote
    obtain ⟨sign, v, rfl, second, escaped⟩ := escaped.split fun a b last _ => by
      cases last
      exact Or.inl quote
    obtain ⟨words', sign', rfl, third, fourth⟩ := escaped.split fun a b _ next => by
      cases next
      exact Or.inr quote
    rw [first.eq_of_kept (kept_of_foreign foreign), second.eq_of_kept (by decide),
      fourth.eq_of_kept (by decide)]
    exact Or.inr ⟨gap, words', by simp, wide, blanks, third.allIn (by decide) inside⟩

theorem linkTitle_clear {title : Text} (formed : LinkTitle title) (before? : Option Char) :
    Escaped.Clear before? title.head? := by
  intro a b _ next
  rcases formed with rfl | ⟨gap, words, rfl, wide, blanks, _⟩
  · cases next
  · obtain ⟨blank, later, rfl⟩ := List.exists_cons_of_ne_nil wide
    cases next
    exact Or.inr (foreign_of_allIn (by decide) blanks _ List.mem_cons_self)

theorem link_unescapes : link.Unescapes := by
  intro t e m escaped found
  obtain ⟨f, groups, first, rfl⟩ := Regex.matchAt?_eq_some found
  obtain ⟨sign, e₁, words, e₂, e₃, target, e₄, spelled, opening, inside, read, aim, form⟩ :=
    link_form (List.mem_of_mem_head? first)
  obtain ⟨some, foreign⟩ := linkOpening_foreign spelled
  obtain ⟨c, text, answers⟩ := Cursor.exists_escapesTo escaped (opening.clear_before some foreign)
  obtain ⟨c₁, opening', answers₁⟩ := answers.walk_kept opening (opening.clear_after some foreign)
    (kept_of_foreign foreign)
  -- Both kinds of links are cut at brackets, only the characters between them differ.
  rcases form with ⟨separator, closing, ⟨address, title, rfl, plain, formed⟩, _⟩ |
    ⟨separator, closing, plain, _⟩
  all_goals
    simp only at closing
    obtain ⟨words', c₂, read', answers₂, inner⟩ :=
      answers₁.walk read (separator.clear_before (by simp) (by decide))
    obtain ⟨c₃, separator', answers₃⟩ := answers₂.walk_kept separator
      (separator.clear_after (by simp) (by decide)) (by decide)
    obtain ⟨target', c₄, aim', answers₄, within⟩ :=
      answers₃.walk aim (closing.clear_before (by simp) (by decide))
    obtain ⟨d, closing', _⟩ := answers₄.walk_kept closing
      (closing.clear_after (by simp) (by decide)) (by decide)
  · obtain ⟨address', title', rfl, left, right⟩ := within.split (linkTitle_clear formed _)
    obtain ⟨m, matched⟩ := link_matches spelled opening' (inner.allIn (by decide) inside) read' aim'
      (Or.inl ⟨separator', closing', address', title', rfl, left.allIn (by decide) plain,
        linkTitle_of_escaped right formed⟩)
    exact ⟨c, m, text, matched⟩
  · obtain ⟨m, matched⟩ := link_matches spelled opening' (inner.allIn (by decide) inside) read' aim'
      (Or.inr ⟨separator', closing', within.allIn (by decide) plain⟩)
    exact ⟨c, m, text, matched⟩

theorem listMarker_foreign {marker : Text} (formed : ListMarker marker) :
    marker ≠ [] ∧ ∀ ch ∈ marker, inReference ch = false := by
  rcases formed with ⟨bullet, allowed, rfl⟩ | ⟨digits, closing, some, _, all, allowed, rfl⟩
  · have plain : AllIn (.oneOf "-*+") [bullet] := by simpa [AllIn] using allowed
    exact ⟨by simp, foreign_of_allIn (by decide) plain⟩
  · refine ⟨by simp, fun ch inside => ?_⟩
    rcases List.mem_append.mp inside with digit | last
    · exact foreign_of_allIn (by decide) all ch digit
    · have plain : AllIn (.oneOf ".)") [closing] := by simpa [AllIn] using allowed
      exact foreign_of_allIn (by decide) plain ch last

theorem lineReturn_foreign {filler : Text} (ended : LineReturn filler) :
    ∀ ch ∈ filler, inReference ch = false := by
  rcases ended with rfl | rfl <;> decide

theorem blockquote_unescapes : blockquote.Unescapes := by
  intro t e m escaped found
  obtain ⟨f, groups, first, rfl⟩ := Regex.matchAt?_eq_some found
  obtain ⟨indent, e₁, signs, e₂, content, e₃, filler, atStart, blanks, margin, some, formed, marker,
    within, text, ended, tail, atEnd, _⟩ := blockquote_form (List.mem_of_mem_head? first)
  simp only at tail atEnd
  have filled := quoteSigns_ne_nil some formed
  have signForeign := foreign_of_allIn (by decide) (quoteSigns_allIn formed)
  have indentForeign := foreign_of_allIn (by decide) blanks
  have fillerForeign := lineReturn_foreign ended
  have lineEnd := Cursor.clear_of_lineEnd atEnd
  obtain ⟨c, same, answers⟩ := Cursor.exists_escapesTo escaped (Cursor.clear_of_lineStart atStart)
  obtain ⟨c₁, margin', answers₁⟩ := answers.walk_kept margin
    (marker.clear_before filled signForeign) (kept_of_foreign indentForeign)
  obtain ⟨c₂, marker', answers₂⟩ := answers₁.walk_kept marker
    (marker.clear_after filled signForeign) (kept_of_foreign signForeign)
  obtain ⟨content', c₃, text', answers₃, inner⟩ :=
    answers₂.walk text (tail.clear_left fillerForeign lineEnd)
  obtain ⟨d, tail', answers'⟩ := answers₃.walk_kept tail lineEnd (kept_of_foreign fillerForeign)
  obtain ⟨m, matched⟩ := blockquote_matches (answers.lineStart.trans atStart) blanks margin' some
    formed marker' (inner.allIn (by decide) within) text' ended tail'
    (answers'.lineEnd.trans atEnd)
  exact ⟨c, m, same, matched⟩

theorem list_unescapes : list.Unescapes := by
  intro t e m escaped found
  obtain ⟨f, groups, first, rfl⟩ := Regex.matchAt?_eq_some found
  obtain ⟨indent, e₁, marker, e₂, gap, e₃, content, e₄, filler, atStart, blanks, margin, formed,
    marked, wide, narrow, space, within, text, ended, tail, atEnd, _⟩ :=
    list_form (List.mem_of_mem_head? first)
  simp only at tail atEnd
  obtain ⟨some, markerForeign⟩ := listMarker_foreign formed
  have indentForeign := foreign_of_allIn (by decide) blanks
  have gapForeign := foreign_of_allIn (by decide) narrow
  have fillerForeign := lineReturn_foreign ended
  have lineEnd := Cursor.clear_of_lineEnd atEnd
  obtain ⟨c, same, answers⟩ := Cursor.exists_escapesTo escaped (Cursor.clear_of_lineStart atStart)
  obtain ⟨c₁, margin', answers₁⟩ := answers.walk_kept margin
    (marked.clear_before some markerForeign) (kept_of_foreign indentForeign)
  obtain ⟨c₂, marked', answers₂⟩ := answers₁.walk_kept marked
    (marked.clear_after some markerForeign) (kept_of_foreign markerForeign)
  obtain ⟨c₃, space', answers₃⟩ := answers₂.walk_kept space (space.clear_after wide gapForeign)
    (kept_of_foreign gapForeign)
  obtain ⟨content', c₄, text', answers₄, inner⟩ :=
    answers₃.walk text (tail.clear_left fillerForeign lineEnd)
  obtain ⟨d, tail', answers'⟩ := answers₄.walk_kept tail lineEnd (kept_of_foreign fillerForeign)
  obtain ⟨m, matched⟩ := list_matches (answers.lineStart.trans atStart) blanks margin' formed
    marked' wide narrow space' (inner.allIn (by decide) within) text' ended tail'
    (answers'.lineEnd.trans atEnd)
  exact ⟨c, m, same, matched⟩

theorem table_unescapes : table.Unescapes := by
  intro t e m escaped found
  obtain ⟨f, groups, first, rfl⟩ := Regex.matchAt?_eq_some found
  obtain ⟨indent, e₁, e₂, content, e₃, e₄, filler, atStart, blanks, margin, opening, within, text,
    closing, filling, tail, atEnd, _⟩ := table_form (List.mem_of_mem_head? first)
  simp only at tail atEnd
  have indentForeign := foreign_of_allIn (by decide) blanks
  have fillerForeign := foreign_of_allIn (by decide) filling
  have lineEnd := Cursor.clear_of_lineEnd atEnd
  obtain ⟨c, same, answers⟩ := Cursor.exists_escapesTo escaped (Cursor.clear_of_lineStart atStart)
  obtain ⟨c₁, margin', answers₁⟩ := answers.walk_kept margin
    (opening.clear_before (by simp) (by decide)) (kept_of_foreign indentForeign)
  obtain ⟨c₂, opening', answers₂⟩ := answers₁.walk_kept opening
    (opening.clear_after (by simp) (by decide)) (by decide)
  obtain ⟨content', c₃, text', answers₃, inner⟩ :=
    answers₂.walk text (closing.clear_before (by simp) (by decide))
  obtain ⟨c₄, closing', answers₄⟩ := answers₃.walk_kept closing
    (closing.clear_after (by simp) (by decide)) (by decide)
  obtain ⟨d, tail', answers'⟩ := answers₄.walk_kept tail lineEnd (kept_of_foreign fillerForeign)
  obtain ⟨m, matched⟩ := table_matches (answers.lineStart.trans atStart) blanks margin' opening'
    (inner.allIn (by decide) within) text' closing' filling tail' (answers'.lineEnd.trans atEnd)
  exact ⟨c, m, same, matched⟩

theorem clear_of_language {e : Cursor}
    (greedy : ∀ ch, e.next? = some ch → languageSet.test ch = false) : e.IsClear := by
  intro a b _ next
  right
  rw [inReference, Bool.eq_false_iff, ne_eq, List.contains_iff_mem]
  intro reference
  have spoken : ∀ ch ∈ "&ltgamp;".toList, languageSet.test ch = true := by decide
  have refused := greedy b next
  rw [spoken b reference] at refused
  cases refused

theorem codeBlockTail_of_escapesTo {c₂ e₂ : Cursor} {q : Progress}
    {opened groups : List (Nat × Cursor × Cursor)} (answers : c₂.EscapesTo e₂)
    (form : CodeBlockTail e₂ opened q) : ∃ q', CodeBlockTail c₂ groups q' := by
  obtain ⟨info, e₃, e₄, e₅, filler, within, line, closing, filling, tail, atEnd, bodied⟩ := form
  have fillerForeign := foreign_of_allIn (by decide) filling
  have lineEnd := Cursor.clear_of_lineEnd atEnd
  obtain ⟨f, info', newline⟩ := line.of_append
  obtain ⟨words, g, read, answersInfo, inner⟩ :=
    answers.walk info' (newline.clear_before (by simp) (by decide))
  obtain ⟨c₃, newline', answers₃⟩ := answersInfo.walk_kept newline
    (newline.clear_after (by simp) (by decide)) (by decide)
  have onward : ∀ c₄ : Cursor, c₄.EscapesTo e₄ → ∃ c₅ d, c₄.Walks fence c₅ ∧ c₅.Walks filler d ∧
      Assertion.lineEnd.holds d = true := by
    intro c₄ answers₄
    obtain ⟨c₅, closing', answers₅⟩ := answers₄.walk_kept closing
      (closing.clear_after (by simp [fence]) (by decide)) (by decide)
    obtain ⟨d, tail', answers'⟩ := answers₅.walk_kept tail lineEnd (kept_of_foreign fillerForeign)
    exact ⟨c₅, d, closing', tail', answers'.lineEnd.trans atEnd⟩
  rcases bodied with ⟨body, h, spelled, last, _⟩ | ⟨rfl, _⟩
  · obtain ⟨body', i, spelled', answersBody, _⟩ :=
      answers₃.walk spelled (last.clear_before (by simp) (by decide))
    obtain ⟨c₄, last', answers₄⟩ := answersBody.walk_kept last
      (last.clear_after (by simp) (by decide)) (by decide)
    obtain ⟨c₅, d, closing', tail', ended⟩ := onward c₄ answers₄
    exact ⟨⟨d, (5, c₄, c₅) :: (4, c₃, i) :: (3, c₂, c₃) :: groups⟩, words, c₃, c₄, c₅, filler,
      inner.allIn (by decide) within, read.trans newline', closing', filling, tail', ended,
      Or.inl ⟨body', i, spelled', last', rfl⟩⟩
  · obtain ⟨c₅, d, closing', tail', ended⟩ := onward c₃ answers₃
    exact ⟨⟨d, (5, c₃, c₅) :: (3, c₂, c₃) :: groups⟩, words, c₃, c₃, c₅, filler,
      inner.allIn (by decide) within, read.trans newline', closing', filling, tail', ended,
      Or.inr ⟨rfl, rfl⟩⟩

theorem codeBlock_unescapes : codeBlock.Unescapes := by
  intro t e m escaped found
  obtain ⟨f, groups, first, rfl⟩ := Regex.matchAt?_eq_some found
  obtain ⟨e₁, language, e₂, atStart, opening, all, spoken, greedy, tail⟩ := codeBlock_form first
  obtain ⟨c, same, answers⟩ := Cursor.exists_escapesTo escaped (Cursor.clear_of_lineStart atStart)
  obtain ⟨c₁, opening', answers₁⟩ := answers.walk_kept opening
    (opening.clear_after (by simp [fence]) (by decide)) (by decide)
  obtain ⟨language', c₂, spoken', answers₂, inner⟩ :=
    answers₁.walk spoken (clear_of_language greedy)
  obtain ⟨q, tail'⟩ := codeBlockTail_of_escapesTo answers₂ tail
  obtain ⟨m, matched⟩ := codeBlock_matches (answers.lineStart.trans atStart) opening'
    (inner.allIn (by decide) all) spoken' tail'
  exact ⟨c, m, same, matched⟩

theorem markdown_unescapes : ∀ p ∈ markdown, p.Unescapes := by
  simp only [markdown, List.forall_mem_cons]
  exact ⟨codeBlock_unescapes, codeInline_unescapes, header_unescapes, bold_unescapes,
    italic_unescapes, strikethrough_unescapes, link_unescapes, blockquote_unescapes,
    list_unescapes, table_unescapes, List.forall_mem_nil _⟩

end Grammar

end MarkdownHighlight
