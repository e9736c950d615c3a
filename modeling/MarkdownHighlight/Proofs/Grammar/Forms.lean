import MarkdownHighlight.Grammar.Markdown
import MarkdownHighlight.Proofs.Regex.Members

/-!
What each construct of the grammar spells. A match is a walk from its first
cursor over the stretches named here, and its groups are the cursors between
them. Every statement follows from the expression of the pattern alone.
-/

namespace MarkdownHighlight

namespace Regex

/-- One character of `ends`, or more with `middle` in between. -/
def Between (ends middle : CharSet) (w : Text) : Prop :=
  ∃ first inner, ends.test first = true ∧ w = first :: inner ∧
    (inner = [] ∨ ∃ body last, inner = body ++ [last] ∧ AllIn middle body ∧
      ends.test last = true)

theorem mem_outcomes_between (ends middle : CharSet) (p q : Progress) :
    q ∈ outcomes (Grammar.between ends middle) p ↔
      ∃ w d, p.cursor.Walks w d ∧ Between ends middle w ∧ q = ⟨d, p.groups⟩ := by
  simp only [Grammar.between, mem_outcomes_seq, mem_outcomes_optional, mem_outcomes_one,
    mem_outcomes_star_one]
  constructor
  · rintro ⟨_, ⟨first, e, atFirst, step, rfl⟩, rest⟩
    rcases rest with ⟨_, ⟨body, f, run, all, rfl⟩, last, d, atLast, final, rfl⟩ | rfl
    · exact ⟨first :: (body ++ [last]), d, step.trans (run.trans final),
        ⟨first, body ++ [last], atFirst, rfl, Or.inr ⟨body, last, rfl, all, atLast⟩⟩, rfl⟩
    · exact ⟨[first], e, step, ⟨first, [], atFirst, rfl, Or.inl rfl⟩, rfl⟩
  · rintro ⟨w, d, walk, ⟨first, inner, atFirst, rfl, rest⟩, rfl⟩
    obtain ⟨e, step, onward⟩ := Cursor.Walks.of_append (v := [first]) (w := inner) walk
    refine ⟨⟨e, p.groups⟩, ⟨first, e, atFirst, step, rfl⟩, ?_⟩
    rcases rest with rfl | ⟨body, last, rfl, all, atLast⟩
    · exact Or.inr (by rw [← onward.eq_of_nil])
    · obtain ⟨f, run, final⟩ := onward.of_append
      exact Or.inl ⟨⟨f, p.groups⟩, ⟨body, f, run, all, rfl⟩, last, d, atLast, final, rfl⟩

end Regex

namespace Grammar

open Regex

variable {c : Cursor} {q : Progress}

theorem codeInline_form (member : q ∈ codeInline.regex.outcomes ⟨c, []⟩) :
    ∃ c₁ w c₂, c.Walks ['`'] c₁ ∧ w ≠ [] ∧ c₁.Walks w c₂ ∧
      AllIn (.complement (.oneOf "`\n")) w ∧ c₂.Walks ['`'] q.cursor ∧
      q.groups = [(3, c₂, q.cursor), (2, c₁, c₂), (1, c, c₁)] := by
  simp only [codeInline, concat, mem_outcomes_seq, mem_outcomes_group, mem_outcomes_char,
    mem_outcomes_plus_one] at member
  obtain ⟨_, ⟨_, ⟨c₁, opening, rfl⟩, rfl⟩, _, ⟨_, ⟨w, c₂, some, content, all, rfl⟩, rfl⟩,
    _, ⟨d, closing, rfl⟩, rfl⟩ := member
  exact ⟨c₁, w, c₂, opening, some, content, all, closing, rfl⟩

theorem header_form (member : q ∈ header.regex.outcomes ⟨c, []⟩) :
    ∃ hashes c₁ gap c₂ content c₃ filler, Assertion.lineStart.holds c = true ∧
      hashes ≠ [] ∧ hashes.length ≤ 6 ∧ AllIn (.single '#') hashes ∧ c.Walks hashes c₁ ∧
      gap ≠ [] ∧ AllIn spaceOrTab gap ∧ c₁.Walks gap c₂ ∧
      AllIn notNewline content ∧ c₂.Walks content c₃ ∧
      AllIn lineFiller filler ∧ c₃.Walks filler q.cursor ∧
      Assertion.lineEnd.holds q.cursor = true ∧ q.groups = [(2, c₂, c₃), (1, c, c₁)] := by
  simp only [header, concat, char, mem_outcomes_seq, mem_outcomes_group, mem_outcomes_assert,
    mem_outcomes_repeated_one _ _ 6 (by decide), mem_outcomes_plus_one,
    mem_outcomes_star_one] at member
  obtain ⟨_, ⟨atStart, rfl⟩, _, ⟨_, ⟨hashes, c₁, some, few, marker, signs, rfl⟩, rfl⟩,
    _, ⟨gap, c₂, wide, space, blanks, rfl⟩, _, ⟨_, ⟨content, c₃, text, inLine, rfl⟩, rfl⟩,
    _, ⟨filler, d, tail, filling, rfl⟩, atEnd, rfl⟩ := member
  exact ⟨hashes, c₁, gap, c₂, content, c₃, filler, atStart, some, few, signs, marker, wide, blanks,
    space, inLine, text, filling, tail, atEnd, rfl⟩

def Delimited (marker : Text) (first : Nat) (ends middle : CharSet) (c : Cursor) (q : Progress) :
    Prop :=
  ∃ c₁ w c₂, c.Walks marker c₁ ∧ Between ends middle w ∧ c₁.Walks w c₂ ∧
    c₂.Walks marker q.cursor ∧
    q.groups = [(first + 2, c₂, q.cursor), (first + 1, c₁, c₂), (first, c, c₁)]

theorem bold_form (member : q ∈ bold.regex.outcomes ⟨c, []⟩) :
    Delimited ['*', '*'] 1 (edge '*') notNewline c q ∨
      (Delimited ['_', '_'] 4 (edge '_') notNewline c q ∧
        (Assertion.wordBoundary .word).holds c = true ∧
        (Assertion.wordBoundary .word).holds q.cursor = true) := by
  simp only [bold, concat, wordEdge, mem_outcomes_alt, mem_outcomes_seq, mem_outcomes_group,
    mem_outcomes_assert, mem_outcomes_literal, mem_outcomes_between] at member
  rcases member with ⟨_, ⟨_, ⟨c₁, opening, rfl⟩, rfl⟩, _, ⟨_, ⟨w, c₂, content, between, rfl⟩, rfl⟩,
    _, ⟨d, closing, rfl⟩, rfl⟩ | ⟨_, ⟨before, rfl⟩, _, ⟨_, ⟨c₁, opening, rfl⟩, rfl⟩,
    _, ⟨_, ⟨w, c₂, content, between, rfl⟩, rfl⟩, _, ⟨_, ⟨d, closing, rfl⟩, rfl⟩, after, rfl⟩
  · exact Or.inl ⟨c₁, w, c₂, opening, between, content, closing, rfl⟩
  · exact Or.inr ⟨⟨c₁, w, c₂, opening, between, content, closing, rfl⟩, before, after⟩

theorem italic_form (member : q ∈ italic.regex.outcomes ⟨c, []⟩) :
    Delimited ['*'] 1 (edge '*') (.complement (.oneOf "*\n")) c q ∨
      (Delimited ['_'] 4 (edge '_') (.complement (.oneOf "_\n")) c q ∧
        (Assertion.wordBoundary .word).holds c = true ∧
        (Assertion.wordBoundary .word).holds q.cursor = true) := by
  simp only [italic, concat, wordEdge, mem_outcomes_alt, mem_outcomes_seq, mem_outcomes_group,
    mem_outcomes_assert, mem_outcomes_char, mem_outcomes_between] at member
  rcases member with ⟨_, ⟨_, ⟨c₁, opening, rfl⟩, rfl⟩, _, ⟨_, ⟨w, c₂, content, between, rfl⟩, rfl⟩,
    _, ⟨d, closing, rfl⟩, rfl⟩ | ⟨_, ⟨before, rfl⟩, _, ⟨_, ⟨c₁, opening, rfl⟩, rfl⟩,
    _, ⟨_, ⟨w, c₂, content, between, rfl⟩, rfl⟩, _, ⟨_, ⟨d, closing, rfl⟩, rfl⟩, after, rfl⟩
  · exact Or.inl ⟨c₁, w, c₂, opening, between, content, closing, rfl⟩
  · exact Or.inr ⟨⟨c₁, w, c₂, opening, between, content, closing, rfl⟩, before, after⟩

theorem strikethrough_form (member : q ∈ strikethrough.regex.outcomes ⟨c, []⟩) :
    Delimited ['~', '~'] 1 (edge '~') (.complement (.oneOf "~\n")) c q := by
  simp only [strikethrough, concat, mem_outcomes_seq, mem_outcomes_group, mem_outcomes_literal,
    mem_outcomes_between] at member
  obtain ⟨_, ⟨_, ⟨c₁, opening, rfl⟩, rfl⟩, _, ⟨_, ⟨w, c₂, content, between, rfl⟩, rfl⟩,
    _, ⟨d, closing, rfl⟩, rfl⟩ := member
  exact ⟨c₁, w, c₂, opening, between, content, closing, rfl⟩

def LinkOpening (w : Text) : Prop := w = ['!', '['] ∨ w = ['[']

def LinkTitle (w : Text) : Prop :=
  w = [] ∨ ∃ gap title, w = gap ++ '"' :: title ++ ['"'] ∧ gap ≠ [] ∧ AllIn spaceOrTab gap ∧
    AllIn (.complement (.oneOf "\"\n")) title

theorem mem_outcomes_linkTitle (p q : Progress) :
    q ∈ outcomes (optional true (concat [.plus true (.one spaceOrTab), char '"',
      .star true (.one (.complement (.oneOf "\"\n"))), char '"'])) p →
    ∃ w d, LinkTitle w ∧ p.cursor.Walks w d ∧ q = ⟨d, p.groups⟩ := by
  intro member
  simp only [concat, mem_outcomes_optional, mem_outcomes_seq, mem_outcomes_plus_one,
    mem_outcomes_char, mem_outcomes_star_one] at member
  rcases member with ⟨_, ⟨gap, e₁, wide, space, blanks, rfl⟩, _, ⟨e₂, quote, rfl⟩,
    _, ⟨title, e₃, words, inside, rfl⟩, e₄, unquote, rfl⟩ | rfl
  · refine ⟨gap ++ '"' :: title ++ ['"'], e₄,
      Or.inr ⟨gap, title, rfl, wide, blanks, inside⟩, ?_, rfl⟩
    have walk := space.trans (quote.trans (words.trans unquote))
    simpa using walk
  · exact ⟨[], q.cursor, Or.inl rfl, .refl _, rfl⟩

theorem link_form (member : q ∈ link.regex.outcomes ⟨c, []⟩) :
    ∃ opening c₁ text c₂ c₃ target c₄, LinkOpening opening ∧ c.Walks opening c₁ ∧
      AllIn (.complement (.oneOf "]\n")) text ∧ c₁.Walks text c₂ ∧ c₃.Walks target c₄ ∧
      ((c₂.Walks [']', '('] c₃ ∧ c₄.Walks [')'] q.cursor ∧
          (∃ address title, target = address ++ title ∧
            AllIn (.complement (.ofItems [.single ')', .blank])) address ∧ LinkTitle title) ∧
          q.groups = [(5, c₄, q.cursor), (4, c₃, c₄), (3, c₂, c₃), (2, c₁, c₂), (1, c, c₁)]) ∨
        (c₂.Walks [']', '['] c₃ ∧ c₄.Walks [']'] q.cursor ∧
          AllIn (.complement (.oneOf "]\n")) target ∧
          q.groups = [(8, c₄, q.cursor), (7, c₃, c₄), (6, c₂, c₃), (2, c₁, c₂), (1, c, c₁)])) := by
  simp only [link, concat] at member
  rw [mem_outcomes_seq] at member
  obtain ⟨p₁, opened, member⟩ := member
  have opening : ∃ w d, LinkOpening w ∧ c.Walks w d ∧ p₁ = ⟨d, [(1, c, d)]⟩ := by
    simp only [mem_outcomes_group, mem_outcomes_seq, mem_outcomes_optional,
      mem_outcomes_char] at opened
    obtain ⟨_, ⟨_, ⟨e, sign, rfl⟩ | rfl, d, bracket, rfl⟩, rfl⟩ := opened
    · exact ⟨['!', '['], d, Or.inl rfl, sign.trans bracket, rfl⟩
    · exact ⟨['['], d, Or.inr rfl, bracket, rfl⟩
  obtain ⟨w, c₁, spelled, walked, rfl⟩ := opening
  rw [mem_outcomes_seq] at member
  obtain ⟨p₂, texted, member⟩ := member
  simp only [mem_outcomes_group, mem_outcomes_star_one] at texted
  obtain ⟨_, ⟨text, c₂, read, inside, rfl⟩, rfl⟩ := texted
  rcases (mem_outcomes_alt _ _ _ _).mp member with inline | reference
  · rw [mem_outcomes_seq] at inline
    obtain ⟨p₃, separated, inline⟩ := inline
    simp only [mem_outcomes_group, mem_outcomes_literal] at separated
    obtain ⟨_, ⟨c₃, separator, rfl⟩, rfl⟩ := separated
    rw [mem_outcomes_seq] at inline
    obtain ⟨p₄, targeted, closed⟩ := inline
    rw [mem_outcomes_group] at targeted
    obtain ⟨_, targeted, rfl⟩ := targeted
    rw [mem_outcomes_seq] at targeted
    obtain ⟨_, addressed, titled⟩ := targeted
    obtain ⟨address, e, written, plain, rfl⟩ := (mem_outcomes_star_one _ _ _ _).mp addressed
    obtain ⟨title, c₄, formed, last, rfl⟩ := mem_outcomes_linkTitle _ _ titled
    simp only [mem_outcomes_group, mem_outcomes_char] at closed
    obtain ⟨_, ⟨d, closing, rfl⟩, rfl⟩ := closed
    exact ⟨w, c₁, text, c₂, c₃, address ++ title, c₄, spelled, walked, inside, read,
      written.trans last, Or.inl ⟨separator, closing, ⟨address, title, rfl, plain, formed⟩, rfl⟩⟩
  · simp only [mem_outcomes_seq, mem_outcomes_group, mem_outcomes_literal,
      mem_outcomes_star_one, mem_outcomes_char] at reference
    obtain ⟨_, ⟨_, ⟨c₃, separator, rfl⟩, rfl⟩, _, ⟨_, ⟨label, c₄, written, plain, rfl⟩, rfl⟩,
      _, ⟨d, closing, rfl⟩, rfl⟩ := reference
    exact ⟨w, c₁, text, c₂, c₃, label, c₄, spelled, walked, inside, read, written,
      Or.inr ⟨separator, closing, plain, rfl⟩⟩

def LineReturn (w : Text) : Prop := w = [] ∨ w = ['\r']

theorem mem_outcomes_return (p q : Progress) :
    q ∈ outcomes (optional true (char '\r')) p ↔
      ∃ w d, LineReturn w ∧ p.cursor.Walks w d ∧ q = ⟨d, p.groups⟩ := by
  rw [mem_outcomes_optional, mem_outcomes_char]
  constructor
  · rintro (⟨d, walk, rfl⟩ | rfl)
    · exact ⟨['\r'], d, Or.inr rfl, walk, rfl⟩
    · exact ⟨[], q.cursor, Or.inl rfl, .refl _, rfl⟩
  · rintro ⟨w, d, rfl | rfl, walk, rfl⟩
    · exact Or.inr (by rw [← walk.eq_of_nil])
    · exact Or.inl ⟨d, walk, rfl⟩

def QuoteSign (w : Text) : Prop :=
  w = ['>'] ∨ ∃ blank, spaceOrTab.test blank = true ∧ w = ['>', blank]

theorem QuoteSign.ne_nil {sign : Text} (formed : QuoteSign sign) : sign ≠ [] := by
  rcases formed with rfl | ⟨blank, _, rfl⟩ <;> simp

theorem quoteSigns_ne_nil {signs : List Text} (some : signs ≠ [])
    (formed : ∀ sign ∈ signs, QuoteSign sign) : signs.flatten ≠ [] := by
  obtain ⟨sign, others, rfl⟩ := List.exists_cons_of_ne_nil some
  simp [(formed sign List.mem_cons_self).ne_nil]

theorem quoteSigns_allIn {signs : List Text} (formed : ∀ sign ∈ signs, QuoteSign sign) :
    AllIn (.oneOf "> \t") signs.flatten := by
  intro ch inside
  obtain ⟨sign, member, within⟩ := List.mem_flatten.mp inside
  rcases formed sign member with rfl | ⟨blank, allowed, rfl⟩
  · rw [List.mem_singleton.mp within]
    decide
  · have known : ch = '>' ∨ ch = blank := by simpa using within
    have blanks : blank = ' ' ∨ blank = '\t' := by simpa [spaceOrTab] using allowed
    rcases known with rfl | rfl
    · decide
    · rcases blanks with rfl | rfl <;> decide

theorem mem_outcomes_quoteSign (p q : Progress)
    (member : q ∈ outcomes (.seq (char '>') (optional true (.one spaceOrTab))) p) :
    ∃ w d, QuoteSign w ∧ p.cursor.Walks w d ∧ q = ⟨d, p.groups⟩ := by
  simp only [mem_outcomes_seq, mem_outcomes_char, mem_outcomes_optional,
    mem_outcomes_one] at member
  obtain ⟨_, ⟨e, step, rfl⟩, ⟨blank, d, allowed, more, rfl⟩ | rfl⟩ := member
  · exact ⟨['>', blank], d, Or.inr ⟨blank, allowed, rfl⟩, step.trans more, rfl⟩
  · exact ⟨['>'], e, Or.inl rfl, step, rfl⟩

theorem blockquote_form (member : q ∈ blockquote.regex.outcomes ⟨c, []⟩) :
    ∃ indent c₁ signs c₂ content c₃ filler, Assertion.lineStart.holds c = true ∧
      AllIn spaceOrTab indent ∧ c.Walks indent c₁ ∧
      signs ≠ [] ∧ (∀ w ∈ signs, QuoteSign w) ∧ c₁.Walks signs.flatten c₂ ∧
      AllIn inLine content ∧ c₂.Walks content c₃ ∧
      LineReturn filler ∧ c₃.Walks filler q.cursor ∧
      Assertion.lineEnd.holds q.cursor = true ∧
      q.groups = [(3, c₂, c₃), (2, c₁, c₂), (1, c, c₁)] := by
  simp only [blockquote, concat, mem_outcomes_seq, mem_outcomes_group, mem_outcomes_assert,
    mem_outcomes_star_one, mem_outcomes_return] at member
  obtain ⟨_, ⟨atStart, rfl⟩, _, ⟨_, ⟨indent, c₁, margin, blanks, rfl⟩, rfl⟩,
    _, ⟨_, marked, rfl⟩, _, ⟨_, ⟨content, c₃, text, within, rfl⟩, rfl⟩,
    _, ⟨filler, d, ended, tail, rfl⟩, atEnd, rfl⟩ := member
  obtain ⟨signs, c₂, some, all, marker, rfl⟩ :=
    mem_outcomes_plus_units true _ QuoteSign mem_outcomes_quoteSign _ _ marked
  exact ⟨indent, c₁, signs, c₂, content, c₃, filler, atStart, blanks, margin, some, all, marker,
    within, text, ended, tail, atEnd, rfl⟩

def ListMarker (w : Text) : Prop :=
  (∃ bullet, (CharSet.oneOf "-*+").test bullet = true ∧ w = [bullet]) ∨
    ∃ digits closing, digits ≠ [] ∧ digits.length ≤ 9 ∧ AllIn .digit digits ∧
      (CharSet.oneOf ".)").test closing = true ∧ w = digits ++ [closing]

theorem mem_outcomes_listMarker (p q : Progress)
    (member : q ∈ outcomes (.alt (.one (.oneOf "-*+"))
      (.seq (repeated true (.one .digit) 1 (some 9)) (.one (.oneOf ".)")))) p) :
    ∃ w d, ListMarker w ∧ p.cursor.Walks w d ∧ q = ⟨d, p.groups⟩ := by
  simp only [mem_outcomes_alt, mem_outcomes_seq, mem_outcomes_one,
    mem_outcomes_repeated_one _ _ 9 (by decide)] at member
  rcases member with ⟨bullet, d, allowed, step, rfl⟩ |
    ⟨_, ⟨digits, e, some, few, run, all, rfl⟩, closing, d, allowed, step, rfl⟩
  · exact ⟨[bullet], d, Or.inl ⟨bullet, allowed, rfl⟩, step, rfl⟩
  · exact ⟨digits ++ [closing], d, Or.inr ⟨digits, closing, some, few, all, allowed, rfl⟩,
      run.trans step, rfl⟩

theorem list_form (member : q ∈ list.regex.outcomes ⟨c, []⟩) :
    ∃ indent c₁ marker c₂ gap c₃ content c₄ filler, Assertion.lineStart.holds c = true ∧
      AllIn spaceOrTab indent ∧ c.Walks indent c₁ ∧ ListMarker marker ∧ c₁.Walks marker c₂ ∧
      gap ≠ [] ∧ AllIn spaceOrTab gap ∧ c₂.Walks gap c₃ ∧
      AllIn inLine content ∧ c₃.Walks content c₄ ∧
      LineReturn filler ∧ c₄.Walks filler q.cursor ∧
      Assertion.lineEnd.holds q.cursor = true ∧
      q.groups = [(4, c₃, c₄), (3, c₂, c₃), (2, c₁, c₂), (1, c, c₁)] := by
  simp only [list, concat, mem_outcomes_seq _ (.seq _ _), mem_outcomes_seq _ (.assert _),
    mem_outcomes_group, mem_outcomes_assert, mem_outcomes_plus_one, mem_outcomes_star_one,
    mem_outcomes_return] at member
  obtain ⟨_, ⟨atStart, rfl⟩, _, ⟨_, ⟨indent, c₁, margin, blanks, rfl⟩, rfl⟩,
    _, ⟨_, marked, rfl⟩, _, ⟨_, ⟨gap, c₃, wide, space, narrow, rfl⟩, rfl⟩,
    _, ⟨_, ⟨content, c₄, text, within, rfl⟩, rfl⟩, _, ⟨filler, d, ended, tail, rfl⟩,
    atEnd, rfl⟩ := member
  obtain ⟨marker, c₂, formed, walked, rfl⟩ := mem_outcomes_listMarker _ _ marked
  exact ⟨indent, c₁, marker, c₂, gap, c₃, content, c₄, filler, atStart, blanks, margin, formed,
    walked, wide, narrow, space, within, text, ended, tail, atEnd, rfl⟩

theorem table_form (member : q ∈ table.regex.outcomes ⟨c, []⟩) :
    ∃ indent c₁ c₂ content c₃ c₄ filler, Assertion.lineStart.holds c = true ∧
      AllIn spaceOrTab indent ∧ c.Walks indent c₁ ∧ c₁.Walks ['|'] c₂ ∧
      AllIn inLine content ∧ c₂.Walks content c₃ ∧ c₃.Walks ['|'] c₄ ∧
      AllIn lineFiller filler ∧ c₄.Walks filler q.cursor ∧
      Assertion.lineEnd.holds q.cursor = true ∧
      q.groups = [(4, c₃, c₄), (3, c₂, c₃), (2, c₁, c₂), (1, c, c₁)] := by
  simp only [table, concat, mem_outcomes_seq, mem_outcomes_group, mem_outcomes_assert,
    mem_outcomes_star_one, mem_outcomes_char] at member
  obtain ⟨_, ⟨atStart, rfl⟩, _, ⟨_, ⟨indent, c₁, margin, blanks, rfl⟩, rfl⟩,
    _, ⟨_, ⟨c₂, opening, rfl⟩, rfl⟩, _, ⟨_, ⟨content, c₃, text, within, rfl⟩, rfl⟩,
    _, ⟨_, ⟨c₄, closing, rfl⟩, rfl⟩, _, ⟨filler, d, tail, filling, rfl⟩, atEnd, rfl⟩ := member
  exact ⟨indent, c₁, c₂, content, c₃, c₄, filler, atStart, blanks, margin, opening, within, text,
    closing, filling, tail, atEnd, rfl⟩

def fence : Text := ['`', '`', '`']

def languageSet : CharSet := .complement (.ofItems [.blank, .single '`'])

def CodeBlockTail (c₂ : Cursor) (groups : List (Nat × Cursor × Cursor)) (q : Progress) : Prop :=
  ∃ info c₃ c₄ c₅ filler, AllIn notNewline info ∧ c₂.Walks (info ++ ['\n']) c₃ ∧
    c₄.Walks fence c₅ ∧ AllIn lineFiller filler ∧ c₅.Walks filler q.cursor ∧
    Assertion.lineEnd.holds q.cursor = true ∧
    ((∃ body e, c₃.Walks body e ∧ e.Walks ['\n'] c₄ ∧
        q.groups = (5, c₄, c₅) :: (4, c₃, e) :: (3, c₂, c₃) :: groups) ∨
      (c₄ = c₃ ∧ q.groups = (5, c₄, c₅) :: (3, c₂, c₃) :: groups))

def codeBlockTail : Regex :=
  concat [.group 3 (.seq (.star true (.one notNewline)) (char '\n')),
    optional true (.seq (.group 4 (.star false (.one .any))) (char '\n')),
    .group 5 (literal "```"), .star true (.one lineFiller), .assert .lineEnd]

theorem mem_outcomes_codeBlockTail (p q : Progress) :
    q ∈ outcomes codeBlockTail p ↔ CodeBlockTail p.cursor p.groups q := by
  simp only [codeBlockTail, concat, mem_outcomes_seq, mem_outcomes_group, mem_outcomes_optional,
    mem_outcomes_char, mem_outcomes_star_one, mem_outcomes_literal, mem_outcomes_assert]
  constructor
  · rintro ⟨_, ⟨_, ⟨_, ⟨info, e₂, line, within, rfl⟩, c₃, newline, rfl⟩, rfl⟩, _, bodied,
      _, ⟨_, ⟨c₅, closing, rfl⟩, rfl⟩, _, ⟨filler, d, tail, filling, rfl⟩, atEnd, rfl⟩
    rcases bodied with ⟨_, ⟨_, ⟨body, e, read, _, rfl⟩, rfl⟩, c₄, last, rfl⟩ | rfl
    · exact ⟨info, c₃, c₄, c₅, filler, within, line.trans newline, closing, filling, tail, atEnd,
        Or.inl ⟨body, e, read, last, rfl⟩⟩
    · exact ⟨info, c₃, c₃, c₅, filler, within, line.trans newline, closing, filling, tail, atEnd,
        Or.inr ⟨rfl, rfl⟩⟩
  -- Backwards the places between the parts are given, and the outcome is put together there.
  · rintro ⟨info, c₃, c₄, c₅, filler, within, line, closing, filling, tail, atEnd, bodied⟩
    obtain ⟨e₂, walked, newline⟩ := line.of_append
    refine ⟨⟨c₃, (3, p.cursor, c₃) :: p.groups⟩,
      ⟨⟨c₃, p.groups⟩, ⟨⟨e₂, p.groups⟩, ⟨info, e₂, walked, within, rfl⟩, c₃, newline, rfl⟩, rfl⟩,
      ?_⟩
    rcases bodied with ⟨body, e, read, last, groups⟩ | ⟨rfl, groups⟩
    · refine ⟨⟨c₄, (4, c₃, e) :: (3, p.cursor, c₃) :: p.groups⟩, Or.inl
        ⟨⟨e, (4, c₃, e) :: (3, p.cursor, c₃) :: p.groups⟩,
          ⟨⟨e, (3, p.cursor, c₃) :: p.groups⟩,
            ⟨body, e, read, fun ch _ => rfl, rfl⟩, rfl⟩, c₄, last, rfl⟩, ?_⟩
      refine ⟨_, ⟨_, ⟨c₅, closing, rfl⟩, rfl⟩, q, ⟨filler, q.cursor, tail, filling, ?_⟩, atEnd, rfl⟩
      exact congrArg (Progress.mk q.cursor) groups
    · refine ⟨_, Or.inr rfl, _, ⟨_, ⟨c₅, closing, rfl⟩, rfl⟩, q,
        ⟨filler, q.cursor, tail, filling, ?_⟩, atEnd, rfl⟩
      exact congrArg (Progress.mk q.cursor) groups

theorem CodeBlockTail.later {c₂ : Cursor} {groups : List (Nat × Cursor × Cursor)} {ch : Char}
    (tail : CodeBlockTail c₂ groups q) (next : c₂.next? = some ch) (other : ch ≠ '\n') :
    ∃ e, c₂.Walks [ch] e ∧ ∀ groups', ∃ closed, CodeBlockTail e groups' ⟨q.cursor, closed⟩ := by
  obtain ⟨info, c₃, c₄, c₅, filler, within, line, closing, filling, last, atEnd, bodied⟩ := tail
  cases info with
  | nil => exact absurd (Option.some.inj (next.symm.trans line.next?)) other
  | cons first info =>
      have same : ch = first := Option.some.inj (next.symm.trans line.next?)
      subst same
      obtain ⟨e, step, rest⟩ := Cursor.Walks.of_append (v := [ch]) (w := info ++ ['\n']) line
      have shorter : AllIn notNewline info :=
        fun x inside => within x (List.mem_cons_of_mem ch inside)
      refine ⟨e, step, ?_⟩
      intro groups'
      rcases bodied with ⟨body, f, read, ended, _⟩ | ⟨empty, _⟩
      · exact ⟨(5, c₄, c₅) :: (4, c₃, f) :: (3, e, c₃) :: groups', info, c₃, c₄, c₅, filler,
          shorter, rest, closing, filling, last, atEnd, Or.inl ⟨body, f, read, ended, rfl⟩⟩
      · exact ⟨(5, c₄, c₅) :: (3, e, c₃) :: groups', info, c₃, c₄, c₅, filler,
          shorter, rest, closing, filling, last, atEnd, Or.inr ⟨empty, rfl⟩⟩

/-- The language is as long as it can be: no shorter one is tried before the
rest of the block has been refused after the whole of it. -/
theorem codeBlock_form (first : (codeBlock.regex.outcomes ⟨c, []⟩).head? = some q) :
    ∃ c₁ language c₂, Assertion.lineStart.holds c = true ∧ c.Walks fence c₁ ∧
      AllIn languageSet language ∧ c₁.Walks language c₂ ∧
      (∀ ch, c₂.next? = some ch → languageSet.test ch = false) ∧
      CodeBlockTail c₂ [(2, c₁, c₂), (1, c, c₁)] q := by
  change ((outcomes (.assert .lineStart) ⟨c, []⟩).flatMap (outcomes (.seq (.group 1 (literal "```"))
    (.seq (.group 2 (.star true (.one languageSet))) codeBlockTail)))).head? = some q at first
  obtain ⟨_, p₀, _, parts, first, _⟩ := head?_flatMap_eq_some _ _ q first
  obtain ⟨atStart, rfl⟩ := (mem_outcomes_assert .lineStart ⟨c, []⟩ p₀).mp (by simp [parts])
  obtain ⟨_, p₁, _, parts, first, _⟩ := head?_flatMap_eq_some _ _ q first
  obtain ⟨_, opened, rfl⟩ := (mem_outcomes_group 1 (literal "```") ⟨c, []⟩ p₁).mp (by simp [parts])
  obtain ⟨c₁, opening, rfl⟩ := (mem_outcomes_literal "```" _ _).mp opened
  change ((outcomes (.group 2 (.star true (.one languageSet))) _).flatMap
    (outcomes codeBlockTail)).head? = some q at first
  rw [outcomes, List.flatMap_map] at first
  obtain ⟨language, c₂, walk, all, found, refused⟩ := head?_star_one_seq languageSet _ _ q first
  have tail := (mem_outcomes_codeBlockTail _ q).mp (List.mem_of_mem_head? found)
  refine ⟨c₁, language, c₂, atStart, opening, all, walk, ?_, tail⟩
  intro ch next
  cases permitted : languageSet.test ch with
  | false => rfl
  | true =>
      exfalso
      have other : ch ≠ '\n' := by
        rintro rfl
        exact absurd permitted (by decide)
      -- One more character of the language would have led to the same end, and earlier.
      obtain ⟨e, step, later⟩ := tail.later next other
      obtain ⟨closed, later⟩ := later [(2, c₁, e), (1, c, c₁)]
      have longer : AllIn languageSet (language ++ [ch]) := by
        intro x inside
        rcases List.mem_append.mp inside with old | new
        · exact all x old
        · rwa [List.mem_singleton.mp new]
      have empty := refused _ e (walk.trans step) longer (step.offset_lt_iff.mpr (by simp))
      change outcomes codeBlockTail (Progress.close 2 c₁ ⟨e, [(1, c, c₁)]⟩) = [] at empty
      have present := (mem_outcomes_codeBlockTail
        (Progress.close 2 c₁ ⟨e, [(1, c, c₁)]⟩) ⟨q.cursor, closed⟩).mpr later
      rw [empty] at present
      cases present

end Grammar

end MarkdownHighlight
