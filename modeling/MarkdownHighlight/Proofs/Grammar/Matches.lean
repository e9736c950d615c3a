import MarkdownHighlight.Proofs.Grammar.Forms

/-!
What is spelled like a construct is matched. The forms of the constructs are not
only what their matches have; wherever a walk over such stretches leads through
a text, the expression has a match at its start.
-/

namespace MarkdownHighlight

theorem Regex.exists_matchAt? {r : Regex} {c : Cursor} {q : Progress}
    (member : q ∈ r.outcomes ⟨c, []⟩) : ∃ m, r.matchAt? c = some m := by
  obtain ⟨first, others, split⟩ := List.exists_cons_of_ne_nil (List.ne_nil_of_mem member)
  rw [matchAt?_eq_head?, split]
  exact ⟨_, rfl⟩

namespace Grammar

open Regex

variable {c c₁ c₂ c₃ c₄ c₅ d e : Cursor} {w : Text}

theorem codeInline_matches (opening : c.Walks ['`'] c₁) (some : w ≠ []) (content : c₁.Walks w c₂)
    (all : AllIn (.complement (.oneOf "`\n")) w) (closing : c₂.Walks ['`'] d) :
    ∃ m, codeInline.regex.matchAt? c = .some m := by
  apply exists_matchAt? (q := ⟨d, [(3, c₂, d), (2, c₁, c₂), (1, c, c₁)]⟩)
  simp only [codeInline, concat, mem_outcomes_seq, mem_outcomes_group, mem_outcomes_char,
    mem_outcomes_plus_one]
  exact ⟨_, ⟨_, ⟨c₁, opening, rfl⟩, rfl⟩, _, ⟨_, ⟨w, c₂, some, content, all, rfl⟩, rfl⟩,
    _, ⟨d, closing, rfl⟩, rfl⟩

theorem header_matches {hashes gap content filler : Text}
    (atStart : Assertion.lineStart.holds c = true) (some : hashes ≠ []) (few : hashes.length ≤ 6)
    (signs : AllIn (.single '#') hashes) (marker : c.Walks hashes c₁) (wide : gap ≠ [])
    (blanks : AllIn spaceOrTab gap) (space : c₁.Walks gap c₂) (inLine : AllIn notNewline content)
    (text : c₂.Walks content c₃) (filling : AllIn lineFiller filler) (tail : c₃.Walks filler d)
    (atEnd : Assertion.lineEnd.holds d = true) : ∃ m, header.regex.matchAt? c = .some m := by
  apply exists_matchAt? (q := ⟨d, [(2, c₂, c₃), (1, c, c₁)]⟩)
  simp only [header, concat, char, mem_outcomes_seq, mem_outcomes_group, mem_outcomes_assert,
    mem_outcomes_repeated_one _ _ 6 (by decide), mem_outcomes_plus_one, mem_outcomes_star_one]
  exact ⟨_, ⟨atStart, rfl⟩, _, ⟨_, ⟨hashes, c₁, some, few, marker, signs, rfl⟩, rfl⟩,
    _, ⟨gap, c₂, wide, space, blanks, rfl⟩, _, ⟨_, ⟨content, c₃, text, inLine, rfl⟩, rfl⟩,
    _, ⟨filler, d, tail, filling, rfl⟩, atEnd, rfl⟩

theorem bold_matches {q : Progress}
    (form : Delimited ['*', '*'] 1 (edge '*') notNewline c q ∨
      (Delimited ['_', '_'] 4 (edge '_') notNewline c q ∧
        (Assertion.wordBoundary .word).holds c = true ∧
        (Assertion.wordBoundary .word).holds q.cursor = true)) :
    ∃ m, bold.regex.matchAt? c = .some m := by
  obtain ⟨d, groups⟩ := q
  apply exists_matchAt? (q := ⟨d, groups⟩)
  simp only [bold, concat, wordEdge, mem_outcomes_alt, mem_outcomes_seq, mem_outcomes_group,
    mem_outcomes_assert, mem_outcomes_literal, mem_outcomes_between]
  rcases form with ⟨c₁, w, c₂, opening, between, content, closing, same⟩ |
    ⟨⟨c₁, w, c₂, opening, between, content, closing, same⟩, before, after⟩
  all_goals
    simp only at same
    subst same
  · exact Or.inl ⟨_, ⟨_, ⟨c₁, opening, rfl⟩, rfl⟩, _, ⟨_, ⟨w, c₂, content, between, rfl⟩, rfl⟩,
      _, ⟨d, closing, rfl⟩, rfl⟩
  · exact Or.inr ⟨_, ⟨before, rfl⟩, _, ⟨_, ⟨c₁, opening, rfl⟩, rfl⟩,
      _, ⟨_, ⟨w, c₂, content, between, rfl⟩, rfl⟩, _, ⟨_, ⟨d, closing, rfl⟩, rfl⟩, after, rfl⟩

theorem italic_matches {q : Progress}
    (form : Delimited ['*'] 1 (edge '*') (.complement (.oneOf "*\n")) c q ∨
      (Delimited ['_'] 4 (edge '_') (.complement (.oneOf "_\n")) c q ∧
        (Assertion.wordBoundary .word).holds c = true ∧
        (Assertion.wordBoundary .word).holds q.cursor = true)) :
    ∃ m, italic.regex.matchAt? c = .some m := by
  obtain ⟨d, groups⟩ := q
  apply exists_matchAt? (q := ⟨d, groups⟩)
  simp only [italic, concat, wordEdge, mem_outcomes_alt, mem_outcomes_seq, mem_outcomes_group,
    mem_outcomes_assert, mem_outcomes_char, mem_outcomes_between]
  rcases form with ⟨c₁, w, c₂, opening, between, content, closing, same⟩ |
    ⟨⟨c₁, w, c₂, opening, between, content, closing, same⟩, before, after⟩
  all_goals
    simp only at same
    subst same
  · exact Or.inl ⟨_, ⟨_, ⟨c₁, opening, rfl⟩, rfl⟩, _, ⟨_, ⟨w, c₂, content, between, rfl⟩, rfl⟩,
      _, ⟨d, closing, rfl⟩, rfl⟩
  · exact Or.inr ⟨_, ⟨before, rfl⟩, _, ⟨_, ⟨c₁, opening, rfl⟩, rfl⟩,
      _, ⟨_, ⟨w, c₂, content, between, rfl⟩, rfl⟩, _, ⟨_, ⟨d, closing, rfl⟩, rfl⟩, after, rfl⟩

theorem strikethrough_matches {q : Progress}
    (form : Delimited ['~', '~'] 1 (edge '~') (.complement (.oneOf "~\n")) c q) :
    ∃ m, strikethrough.regex.matchAt? c = .some m := by
  obtain ⟨c₁, w, c₂, opening, between, content, closing, same⟩ := form
  obtain ⟨d, groups⟩ := q
  simp only at closing same
  subst same
  apply exists_matchAt? (q := ⟨d, _⟩)
  simp only [strikethrough, concat, mem_outcomes_seq, mem_outcomes_group, mem_outcomes_literal,
    mem_outcomes_between]
  exact ⟨_, ⟨_, ⟨c₁, opening, rfl⟩, rfl⟩, _, ⟨_, ⟨w, c₂, content, between, rfl⟩, rfl⟩,
    _, ⟨d, closing, rfl⟩, rfl⟩

theorem mem_outcomes_linkTitle_of (p : Progress) {title : Text} (formed : LinkTitle title)
    (walk : p.cursor.Walks title d) : ⟨d, p.groups⟩ ∈
      outcomes (optional true (concat [.plus true (.one spaceOrTab), char '"',
        .star true (.one (.complement (.oneOf "\"\n"))), char '"'])) p := by
  simp only [concat, mem_outcomes_optional, mem_outcomes_seq, mem_outcomes_plus_one,
    mem_outcomes_char, mem_outcomes_star_one]
  rcases formed with rfl | ⟨gap, words, rfl, wide, blanks, inside⟩
  · exact Or.inr (by rw [← walk.eq_of_nil])
  · left
    have shape : gap ++ '"' :: words ++ ['"'] = gap ++ (['"'] ++ (words ++ ['"'])) := by simp
    rw [shape] at walk
    obtain ⟨e₁, space, walk⟩ := walk.of_append
    obtain ⟨e₂, quote, walk⟩ := walk.of_append
    obtain ⟨e₃, spelled, unquote⟩ := walk.of_append
    exact ⟨_, ⟨gap, e₁, wide, space, blanks, rfl⟩, _, ⟨e₂, quote, rfl⟩,
      _, ⟨words, e₃, spelled, inside, rfl⟩, d, unquote, rfl⟩

theorem mem_outcomes_linkOpening_of (p : Progress) {opening : Text} (spelled : LinkOpening opening)
    (walk : p.cursor.Walks opening d) :
    ⟨d, p.groups⟩ ∈ outcomes (.seq (optional true (char '!')) (char '[')) p := by
  simp only [mem_outcomes_seq, mem_outcomes_optional, mem_outcomes_char]
  rcases spelled with rfl | rfl
  · obtain ⟨e, sign, bracket⟩ := Cursor.Walks.of_append (v := ['!']) (w := ['[']) walk
    exact ⟨_, Or.inl ⟨e, sign, rfl⟩, d, bracket, rfl⟩
  · exact ⟨_, Or.inr rfl, d, walk, rfl⟩

theorem link_matches {opening text target : Text} (spelled : LinkOpening opening)
    (opened : c.Walks opening c₁) (inside : AllIn (.complement (.oneOf "]\n")) text)
    (read : c₁.Walks text c₂) (aimed : c₃.Walks target c₄)
    (form : (c₂.Walks [']', '('] c₃ ∧ c₄.Walks [')'] d ∧ ∃ address title,
        target = address ++ title ∧
          AllIn (.complement (.ofItems [.single ')', .blank])) address ∧ LinkTitle title) ∨
      (c₂.Walks [']', '['] c₃ ∧ c₄.Walks [']'] d ∧
        AllIn (.complement (.oneOf "]\n")) target)) :
    ∃ m, link.regex.matchAt? c = .some m := by
  have opening := mem_outcomes_linkOpening_of ⟨c, []⟩ spelled opened
  rcases form with ⟨separator, closing, address, title, rfl, plain, formed⟩ |
    ⟨separator, closing, plain⟩
  · obtain ⟨f, written, last⟩ := aimed.of_append
    apply exists_matchAt? (q := ⟨d, [(5, c₄, d), (4, c₃, c₄), (3, c₂, c₃), (2, c₁, c₂),
      (1, c, c₁)]⟩)
    have titled := mem_outcomes_linkTitle_of ⟨f, [(3, c₂, c₃), (2, c₁, c₂), (1, c, c₁)]⟩
      formed last
    simp only [link, concat] at titled ⊢
    rw [mem_outcomes_seq]
    refine ⟨_, (mem_outcomes_group ..).mpr ⟨_, opening, rfl⟩, ?_⟩
    rw [mem_outcomes_seq]
    refine ⟨_, (mem_outcomes_group ..).mpr ⟨_, (mem_outcomes_star_one ..).mpr
      ⟨text, c₂, read, inside, rfl⟩, rfl⟩, ?_⟩
    refine (mem_outcomes_alt ..).mpr (Or.inl ?_)
    rw [mem_outcomes_seq]
    refine ⟨_, (mem_outcomes_group ..).mpr ⟨_, (mem_outcomes_literal ..).mpr
      ⟨c₃, separator, rfl⟩, rfl⟩, ?_⟩
    rw [mem_outcomes_seq]
    refine ⟨_, (mem_outcomes_group ..).mpr ⟨_, (mem_outcomes_seq ..).mpr
      ⟨_, (mem_outcomes_star_one ..).mpr ⟨address, f, written, plain, rfl⟩, titled⟩, rfl⟩, ?_⟩
    exact (mem_outcomes_group ..).mpr ⟨_, (mem_outcomes_char ..).mpr ⟨d, closing, rfl⟩, rfl⟩
  · apply exists_matchAt? (q := ⟨d, [(8, c₄, d), (7, c₃, c₄), (6, c₂, c₃), (2, c₁, c₂),
      (1, c, c₁)]⟩)
    simp only [link, concat]
    rw [mem_outcomes_seq]
    refine ⟨_, (mem_outcomes_group ..).mpr ⟨_, opening, rfl⟩, ?_⟩
    rw [mem_outcomes_seq]
    refine ⟨_, (mem_outcomes_group ..).mpr ⟨_, (mem_outcomes_star_one ..).mpr
      ⟨text, c₂, read, inside, rfl⟩, rfl⟩, ?_⟩
    refine (mem_outcomes_alt ..).mpr (Or.inr ?_)
    simp only [mem_outcomes_seq, mem_outcomes_group, mem_outcomes_literal, mem_outcomes_star_one,
      mem_outcomes_char]
    exact ⟨_, ⟨_, ⟨c₃, separator, rfl⟩, rfl⟩, _, ⟨_, ⟨target, c₄, aimed, plain, rfl⟩, rfl⟩,
      _, ⟨d, closing, rfl⟩, rfl⟩

theorem mem_outcomes_quoteSign_of (p : Progress) (sign : Text) (d : Cursor)
    (formed : QuoteSign sign) (walk : p.cursor.Walks sign d) :
    ⟨d, p.groups⟩ ∈ outcomes (.seq (char '>') (optional true (.one spaceOrTab))) p := by
  simp only [mem_outcomes_seq, mem_outcomes_char, mem_outcomes_optional, mem_outcomes_one]
  rcases formed with rfl | ⟨blank, allowed, rfl⟩
  · exact ⟨_, ⟨d, walk, rfl⟩, Or.inr rfl⟩
  · obtain ⟨e, step, more⟩ := Cursor.Walks.of_append (v := ['>']) (w := [blank]) walk
    exact ⟨_, ⟨e, step, rfl⟩, Or.inl ⟨blank, d, allowed, more, rfl⟩⟩

theorem blockquote_matches {indent content filler : Text} {signs : List Text}
    (atStart : Assertion.lineStart.holds c = true) (blanks : AllIn spaceOrTab indent)
    (margin : c.Walks indent c₁) (some : signs ≠ []) (formed : ∀ sign ∈ signs, QuoteSign sign)
    (marker : c₁.Walks signs.flatten c₂) (within : AllIn inLine content)
    (text : c₂.Walks content c₃) (ended : LineReturn filler) (tail : c₃.Walks filler d)
    (atEnd : Assertion.lineEnd.holds d = true) :
    ∃ m, blockquote.regex.matchAt? c = .some m := by
  have marking := mem_outcomes_plus_units_of true (fun _ => QuoteSign.ne_nil)
    mem_outcomes_quoteSign_of some formed ⟨c₁, [(1, c, c₁)]⟩ marker
  apply exists_matchAt? (q := ⟨d, [(3, c₂, c₃), (2, c₁, c₂), (1, c, c₁)]⟩)
  simp only [blockquote, concat, mem_outcomes_seq _ (.seq _ _), mem_outcomes_seq _ (.assert _),
    mem_outcomes_group, mem_outcomes_assert, mem_outcomes_star_one, mem_outcomes_return]
  exact ⟨_, ⟨atStart, rfl⟩, _, ⟨_, ⟨indent, c₁, margin, blanks, rfl⟩, rfl⟩, _, ⟨_, marking, rfl⟩,
    _, ⟨_, ⟨content, c₃, text, within, rfl⟩, rfl⟩, _, ⟨filler, d, ended, tail, rfl⟩, atEnd, rfl⟩

theorem mem_outcomes_listMarker_of (p : Progress) {marker : Text} (formed : ListMarker marker)
    (walk : p.cursor.Walks marker d) : ⟨d, p.groups⟩ ∈ outcomes (.alt (.one (.oneOf "-*+"))
      (.seq (repeated true (.one .digit) 1 (some 9)) (.one (.oneOf ".)")))) p := by
  simp only [mem_outcomes_alt, mem_outcomes_seq, mem_outcomes_one,
    mem_outcomes_repeated_one _ _ 9 (by decide)]
  rcases formed with ⟨bullet, allowed, rfl⟩ | ⟨digits, closing, some, few, all, allowed, rfl⟩
  · exact Or.inl ⟨bullet, d, allowed, walk, rfl⟩
  · obtain ⟨e, run, step⟩ := walk.of_append
    exact Or.inr ⟨_, ⟨digits, e, some, few, run, all, rfl⟩, closing, d, allowed, step, rfl⟩

theorem list_matches {indent marker gap content filler : Text}
    (atStart : Assertion.lineStart.holds c = true) (blanks : AllIn spaceOrTab indent)
    (margin : c.Walks indent c₁) (formed : ListMarker marker) (marked : c₁.Walks marker c₂)
    (wide : gap ≠ []) (narrow : AllIn spaceOrTab gap) (space : c₂.Walks gap c₃)
    (within : AllIn inLine content) (text : c₃.Walks content c₄) (ended : LineReturn filler)
    (tail : c₄.Walks filler d) (atEnd : Assertion.lineEnd.holds d = true) :
    ∃ m, list.regex.matchAt? c = .some m := by
  have marking := mem_outcomes_listMarker_of ⟨c₁, [(1, c, c₁)]⟩ formed marked
  apply exists_matchAt? (q := ⟨d, [(4, c₃, c₄), (3, c₂, c₃), (2, c₁, c₂), (1, c, c₁)]⟩)
  simp only [list, concat, mem_outcomes_seq _ (.seq _ _), mem_outcomes_seq _ (.assert _),
    mem_outcomes_group, mem_outcomes_assert, mem_outcomes_plus_one, mem_outcomes_star_one,
    mem_outcomes_return]
  exact ⟨_, ⟨atStart, rfl⟩, _, ⟨_, ⟨indent, c₁, margin, blanks, rfl⟩, rfl⟩,
    _, ⟨_, marking, rfl⟩, _, ⟨_, ⟨gap, c₃, wide, space, narrow, rfl⟩, rfl⟩,
    _, ⟨_, ⟨content, c₄, text, within, rfl⟩, rfl⟩, _, ⟨filler, d, ended, tail, rfl⟩, atEnd, rfl⟩

theorem table_matches {indent content filler : Text}
    (atStart : Assertion.lineStart.holds c = true) (blanks : AllIn spaceOrTab indent)
    (margin : c.Walks indent c₁) (opening : c₁.Walks ['|'] c₂) (within : AllIn inLine content)
    (text : c₂.Walks content c₃) (closing : c₃.Walks ['|'] c₄) (filling : AllIn lineFiller filler)
    (tail : c₄.Walks filler d) (atEnd : Assertion.lineEnd.holds d = true) :
    ∃ m, table.regex.matchAt? c = .some m := by
  apply exists_matchAt? (q := ⟨d, [(4, c₃, c₄), (3, c₂, c₃), (2, c₁, c₂), (1, c, c₁)]⟩)
  simp only [table, concat, mem_outcomes_seq, mem_outcomes_group, mem_outcomes_assert,
    mem_outcomes_star_one, mem_outcomes_char]
  exact ⟨_, ⟨atStart, rfl⟩, _, ⟨_, ⟨indent, c₁, margin, blanks, rfl⟩, rfl⟩,
    _, ⟨_, ⟨c₂, opening, rfl⟩, rfl⟩, _, ⟨_, ⟨content, c₃, text, within, rfl⟩, rfl⟩,
    _, ⟨_, ⟨c₄, closing, rfl⟩, rfl⟩, _, ⟨filler, d, tail, filling, rfl⟩, atEnd, rfl⟩

theorem codeBlock_matches {language : Text} {q : Progress}
    (atStart : Assertion.lineStart.holds c = true) (opening : c.Walks fence c₁)
    (all : AllIn languageSet language) (spoken : c₁.Walks language c₂)
    (tail : CodeBlockTail c₂ [(2, c₁, c₂), (1, c, c₁)] q) :
    ∃ m, codeBlock.regex.matchAt? c = .some m := by
  apply exists_matchAt? (q := q)
  change q ∈ outcomes (.seq (.assert .lineStart) (.seq (.group 1 (literal "```"))
    (.seq (.group 2 (.star true (.one languageSet))) codeBlockTail))) ⟨c, []⟩
  simp only [mem_outcomes_seq, mem_outcomes_group, mem_outcomes_assert, mem_outcomes_literal,
    mem_outcomes_star_one, mem_outcomes_codeBlockTail]
  exact ⟨_, ⟨atStart, rfl⟩, _, ⟨_, ⟨c₁, opening, rfl⟩, rfl⟩,
    _, ⟨_, ⟨language, c₂, spoken, all, rfl⟩, rfl⟩, tail⟩

end Grammar

end MarkdownHighlight
