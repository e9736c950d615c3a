import MarkdownHighlight.Proofs.Grammar.Matches
import MarkdownHighlight.Proofs.Grammar.Lawful
import MarkdownHighlight.Proofs.Regex.Preferred

/-!
The constructs that take a whole line. A line form cuts a line into what stands
before the content, the content, and what may follow it; each cut is where the
expression of the construct prefers it to be. A pattern matches at a place
exactly when a line of its form begins there, and then over the whole line.
-/

namespace MarkdownHighlight

open Regex Grammar

structure Cursor.Line (c d : Cursor) (line : Text) : Prop where
  walk : c.Walks line d
  first : Assertion.lineStart.holds c = true
  last : Assertion.lineEnd.holds d = true
  clean : '\n' ∉ line

inductive QuoteSigns (rest : Text) : List Text → Prop
  | none (ended : ∀ ch, rest.head? = some ch → ch ≠ '>') : QuoteSigns rest []
  | bare {signs : List Text} (later : QuoteSigns rest signs)
      (next : ∀ ch, (signs.flatten ++ rest).head? = some ch → spaceOrTab.test ch = false) :
      QuoteSigns rest (['>'] :: signs)
  | spaced {signs : List Text} {blank : Char} (later : QuoteSigns rest signs)
      (allowed : spaceOrTab.test blank = true) : QuoteSigns rest (['>', blank] :: signs)

theorem QuoteSigns.all {rest : Text} {signs : List Text} (greedy : QuoteSigns rest signs) :
    ∀ sign ∈ signs, QuoteSign sign := by
  induction greedy with
  | none => nofun
  | bare _ _ ih => exact List.forall_mem_cons.mpr ⟨Or.inl rfl, ih⟩
  | spaced _ allowed ih => exact List.forall_mem_cons.mpr ⟨Or.inr ⟨_, allowed, rfl⟩, ih⟩

theorem QuoteSigns.exists_cons {rest : Text} {signs : List Text} (greedy : QuoteSigns rest signs)
    (some : signs ≠ []) : ∃ later, signs.flatten = '>' :: later := by
  cases greedy with
  | none => exact absurd rfl some
  | bare => exact ⟨_, rfl⟩
  | spaced => exact ⟨_, rfl⟩

/-- What a line spells: the kind of its token, what stands before the content,
the content, and what stands behind it. -/
inductive LineForm : TokenKind → Text → Text → Text → Prop
  | header {hashes gap content filler : Text} (some : hashes ≠ []) (few : hashes.length ≤ 6)
      (signs : AllIn (.single '#') hashes) (wide : gap ≠ []) (blanks : AllIn spaceOrTab gap)
      (first : ∀ ch, (content ++ filler).head? = .some ch → spaceOrTab.test ch = false)
      (last : ∀ ch, content.getLast? = .some ch → lineFiller.test ch = false)
      (filling : AllIn lineFiller filler) :
      LineForm (.header hashes.length content) (hashes ++ gap) content filler
  | blockquote {indent content filler : Text} {signs : List Text}
      (blanks : AllIn spaceOrTab indent) (some : signs ≠ [])
      (greedy : QuoteSigns (content ++ filler) signs) (within : AllIn inLine content)
      (ended : LineReturn filler) :
      LineForm (.blockquote (signs.flatten.count '>') (Extraction.indentWidth indent) content)
        (indent ++ signs.flatten) content filler
  | list {indent marker gap content filler : Text} (blanks : AllIn spaceOrTab indent)
      (formed : ListMarker marker) (wide : gap ≠ []) (narrow : AllIn spaceOrTab gap)
      (first : ∀ ch, (content ++ filler).head? = .some ch → spaceOrTab.test ch = false)
      (within : AllIn inLine content) (ended : LineReturn filler) :
      LineForm (.list (Extraction.indentWidth indent / 2) marker content)
        (indent ++ marker ++ gap) content filler
  | table {indent content filler : Text} (blanks : AllIn spaceOrTab indent)
      (within : AllIn inLine content) (filling : AllIn lineFiller filler) :
      LineForm (.table content) (indent ++ ['|']) content ('|' :: filler)

namespace Cursor

variable {c d e : Cursor} {w : Text} {set : CharSet}

theorem Walks.refuses (onward : d.Walks w e) (atEnd : Assertion.lineEnd.holds e = true)
    (first : ∀ ch, w.head? = some ch → set.test ch = false) (stop : set.test '\n' = false) :
    d.Refuses set := by
  intro ch next
  cases w with
  | nil =>
      rw [onward.eq_of_nil] at next
      rw [Assertion.holds, next] at atEnd
      simp only [Option.all_some, beq_iff_eq] at atEnd
      rw [atEnd, stop]
  | cons head later =>
      rw [onward.next?] at next
      exact first ch next

theorem Walks.refuses_of_allIn {other : CharSet} (onward : d.Walks w e) (some : w ≠ [])
    (all : AllIn other w) (apart : ∀ ch, other.test ch = true → set.test ch = false) :
    d.Refuses set := by
  obtain ⟨head, later, rfl⟩ := List.exists_cons_of_ne_nil some
  intro ch next
  rw [onward.next?] at next
  exact apart ch (Option.some.inj next ▸ all head List.mem_cons_self)

theorem refuses_of_lineEnd (atEnd : Assertion.lineEnd.holds d = true)
    (stop : set.test '\n' = false) : d.Refuses set :=
  (Walks.refl d).refuses atEnd nofun stop

theorem Walks.eq_nil_of_lineEnd (onward : d.Walks w e) (clean : '\n' ∉ w)
    (atEnd : Assertion.lineEnd.holds d = true) : w = [] := by
  cases w with
  | nil => rfl
  | cons ch later =>
      rw [Assertion.holds, onward.next?] at atEnd
      simp only [Option.all_some, beq_iff_eq] at atEnd
      exact absurd (atEnd ▸ List.mem_cons_self) clean

theorem Walks.not_lineStart (walk : c.Walks w d) (some : w ≠ []) (clean : '\n' ∉ w) :
    Assertion.lineStart.holds d = false := by
  rw [Assertion.holds, walk.previous?_eq_getLast some, Option.all_some, beq_eq_false_iff_ne]
  intro ends
  exact clean (ends ▸ List.getLast_mem some)

theorem Walks.lineEnd_unique {v : Text} (first : c.Walks v d) (second : c.Walks w e)
    (clean : '\n' ∉ v) (clean' : '\n' ∉ w) (atEnd : Assertion.lineEnd.holds d = true)
    (atEnd' : Assertion.lineEnd.holds e = true) : d = e := by
  rcases Nat.le_total d.offset e.offset with le | le
  · obtain ⟨u, rfl, onward⟩ := first.continue_of_le second le
    have none := onward.eq_nil_of_lineEnd (fun inside => clean' (List.mem_append_right v inside))
      atEnd
    subst none
    exact onward.eq_of_nil
  · obtain ⟨u, rfl, onward⟩ := second.continue_of_le first le
    have none := onward.eq_nil_of_lineEnd (fun inside => clean (List.mem_append_right w inside))
      atEnd'
    subst none
    exact onward.eq_of_nil.symm

end Cursor

namespace Grammar

section Preferred

variable {c c₁ c₂ c₃ c₄ d : Cursor} {indent content filler : Text}

theorem not_mem_of_allIn {set : CharSet} {ch : Char} {w : Text} (all : AllIn set w)
    (refused : set.test ch = false) : ch ∉ w := by
  intro inside
  rw [all ch inside] at refused
  cases refused

theorem spaceOrTab_iff (ch : Char) : spaceOrTab.test ch = true ↔ ch = ' ' ∨ ch = '\t' := by
  simp [spaceOrTab]

theorem prefers_headerTail (groups : List (Nat × Cursor × Cursor)) (text : c₂.Walks content c₃)
    (inLine : AllIn notNewline content)
    (last : ∀ ch, content.getLast? = some ch → lineFiller.test ch = false)
    (filling : AllIn lineFiller filler) (tail : c₃.Walks filler d)
    (atEnd : Assertion.lineEnd.holds d = true) :
    Prefers (.seq (.group 2 (.star false (.one notNewline)))
      (.seq (.star true (.one lineFiller)) (.assert .lineEnd))) ⟨c₂, groups⟩
      ⟨d, (2, c₂, c₃) :: groups⟩ := by
  refine prefers_lazy_seq 2 (p := ⟨c₂, groups⟩) text inLine ?_ ?_
  · have run := prefers_star_one (p := ⟨c₃, (2, c₂, c₃) :: groups⟩) tail filling
      (Cursor.refuses_of_lineEnd atEnd (by decide))
    exact run.seq (prefers_assert atEnd)
  · intro v e u reached onward some
    rw [List.eq_nil_iff_forall_not_mem]
    intro q member
    simp only [mem_outcomes_seq, mem_outcomes_star_one, mem_outcomes_assert] at member
    obtain ⟨_, ⟨w, f, run, all, rfl⟩, ended, rfl⟩ := member
    simp only at run ended
    obtain ⟨lead, ch, rfl⟩ : ∃ lead ch, u = lead ++ [ch] :=
      ⟨_, _, (List.dropLast_concat_getLast some).symm⟩
    have whole := text.word_unique (reached.trans onward)
    rw [whole] at inLine last
    have strange := last ch (by rw [← List.append_assoc, List.getLast?_concat])
    -- The filler would have to go over the last character of the content, which is none.
    have passed : ch ∈ w := by
      rcases Nat.le_total c₃.offset f.offset with le | le
      · obtain ⟨_, rfl, _⟩ := onward.continue_of_le run le
        simp
      · obtain ⟨u, split, rest⟩ := run.continue_of_le onward le
        have clean : '\n' ∉ u := by
          intro inside
          have member : '\n' ∈ v ++ (lead ++ [ch]) := by simp [split, inside]
          exact not_mem_of_allIn inLine (by decide) member
        rw [rest.eq_nil_of_lineEnd clean ended, List.append_nil] at split
        simp [← split]
    rw [all ch passed] at strange
    cases strange

theorem header_prefers {hashes gap : Text} (some : hashes ≠ []) (few : hashes.length ≤ 6)
    (signs : AllIn (.single '#') hashes) (wide : gap ≠ []) (blanks : AllIn spaceOrTab gap)
    (first : ∀ ch, (content ++ filler).head? = .some ch → spaceOrTab.test ch = false)
    (last : ∀ ch, content.getLast? = .some ch → lineFiller.test ch = false)
    (inLine : AllIn notNewline content) (filling : AllIn lineFiller filler)
    (atStart : Assertion.lineStart.holds c = true) (marker : c.Walks hashes c₁)
    (space : c₁.Walks gap c₂) (text : c₂.Walks content c₃) (tail : c₃.Walks filler d)
    (atEnd : Assertion.lineEnd.holds d = true) :
    Prefers header.regex ⟨c, []⟩ ⟨d, [(2, c₂, c₃), (1, c, c₁)]⟩ := by
  have apart : ∀ ch, spaceOrTab.test ch = true → (CharSet.single '#').test ch = false := by
    intro ch blank
    rcases (spaceOrTab_iff ch).mp blank with rfl | rfl <;> decide
  have opening := prefers_repeated_one (p := ⟨c, []⟩) 6 (by decide) some few marker signs
    (space.refuses_of_allIn wide blanks apart)
  have gapped := prefers_plus_one (p := ⟨c₁, [(1, c, c₁)]⟩) wide space blanks
    ((text.trans tail).refuses atEnd first (by decide))
  have closing := prefers_headerTail [(1, c, c₁)] text inLine last filling tail atEnd
  exact (prefers_assert atStart).seq ((opening.group 1).seq (gapped.seq closing))

theorem rounds_quoteSigns {signs : List Text} {rest : Text} (greedy : QuoteSigns rest signs)
    {p : Progress} (marker : p.cursor.Walks signs.flatten c₂) (onward : c₂.Walks rest d)
    (atEnd : Assertion.lineEnd.holds d = true) :
    Rounds (.seq (char '>') (optional true (.one spaceOrTab))) p ⟨c₂, p.groups⟩ := by
  induction greedy generalizing p with
  | none ended =>
      have here := marker.eq_of_nil
      subst here
      apply Rounds.stop
      apply outcomes_seq_of_nil
      apply outcomes_one_of_refuses
      exact onward.refuses atEnd (fun ch head => by simpa [CharSet.test] using ended ch head)
        (by decide)
  | @bare signs _ next ih =>
      rw [List.flatten_cons] at marker
      obtain ⟨e, sign, others⟩ := marker.of_append
      have alone := (others.trans onward).refuses atEnd next (by decide)
      have skipped := prefers_optional_of_nil (outcomes_one_of_refuses (p := ⟨e, p.groups⟩) alone)
      have first := (prefers_char sign).seq skipped
      exact .step first (sign.offset_lt_iff.mpr (by simp)) (ih (p := ⟨e, p.groups⟩) others)
  | @spaced signs blank _ allowed ih =>
      rw [List.flatten_cons] at marker
      obtain ⟨e, sign, others⟩ := marker.of_append
      obtain ⟨f, step, space⟩ := Cursor.Walks.of_append (v := ['>']) (w := [blank]) sign
      have taken := prefers_one (p := ⟨f, p.groups⟩) allowed space
      have first := (prefers_char step).seq taken.optional
      exact .step first (sign.offset_lt_iff.mpr (by simp)) (ih (p := ⟨e, p.groups⟩) others)

theorem prefers_return {p : Progress} (ended : LineReturn filler) (tail : p.cursor.Walks filler d)
    (atEnd : Assertion.lineEnd.holds d = true) :
    Prefers (optional true (char '\r')) p ⟨d, p.groups⟩ := by
  rcases ended with rfl | rfl
  · have here := tail.eq_of_nil
    subst here
    exact prefers_optional_of_nil
      (outcomes_one_of_refuses (Cursor.refuses_of_lineEnd atEnd (by decide)))
  · exact (prefers_char tail).optional

theorem prefers_content {p : Progress} (text : p.cursor.Walks content c₃)
    (within : AllIn inLine content) (ended : LineReturn filler) (tail : c₃.Walks filler d)
    (atEnd : Assertion.lineEnd.holds d = true) :
    Prefers (.star true (.one inLine)) p ⟨c₃, p.groups⟩ := by
  refine prefers_star_one text within (tail.refuses atEnd ?_ (by decide))
  rcases ended with rfl | rfl
  · nofun
  · intro ch head
    rw [← Option.some.inj head]
    decide

theorem blockquote_prefers {signs : List Text} (blanks : AllIn spaceOrTab indent)
    (greedy : QuoteSigns (content ++ filler) signs) (some : signs ≠ [])
    (within : AllIn inLine content) (ended : LineReturn filler)
    (atStart : Assertion.lineStart.holds c = true) (margin : c.Walks indent c₁)
    (marker : c₁.Walks signs.flatten c₂) (text : c₂.Walks content c₃) (tail : c₃.Walks filler d)
    (atEnd : Assertion.lineEnd.holds d = true) :
    Prefers blockquote.regex ⟨c, []⟩ ⟨d, [(3, c₂, c₃), (2, c₁, c₂), (1, c, c₁)]⟩ := by
  obtain ⟨later, signed⟩ := greedy.exists_cons some
  have rounds := rounds_quoteSigns greedy (p := ⟨c₁, [(1, c, c₁)]⟩) marker (text.trans tail) atEnd
  have moved := marker.offset_lt_iff.mpr (by simp [signed])
  have sign : c₁.Refuses spaceOrTab := by
    intro ch next
    rw [signed] at marker
    rw [← Option.some.inj (marker.next?.symm.trans next)]
    decide
  have indented := prefers_star_one (p := ⟨c, []⟩) margin blanks sign
  have filled := prefers_content (p := ⟨c₂, [(2, c₁, c₂), (1, c, c₁)]⟩) text within ended tail atEnd
  have closing := prefers_return (p := ⟨c₃, [(3, c₂, c₃), (2, c₁, c₂), (1, c, c₁)]⟩) ended tail atEnd
  exact (prefers_assert atStart).seq ((indented.group 1).seq (((rounds.plus moved).group 2).seq
    ((filled.group 3).seq (closing.seq (prefers_assert atEnd)))))

theorem prefers_listMarker {marker : Text} {p : Progress} (formed : ListMarker marker)
    (marked : p.cursor.Walks marker d) :
    Prefers (.alt (.one (.oneOf "-*+"))
      (.seq (repeated true (.one .digit) 1 (some 9)) (.one (.oneOf ".)")))) p ⟨d, p.groups⟩ := by
  rcases formed with ⟨bullet, allowed, rfl⟩ | ⟨digits, closing, some, few, all, allowed, rfl⟩
  · exact (prefers_one allowed marked).left
  · obtain ⟨e, run, step⟩ := marked.of_append
    have unbulleted : p.cursor.Refuses (.oneOf "-*+") := by
      apply run.refuses_of_allIn some all
      intro ch digit
      by_contra bullet
      rw [Bool.not_eq_false] at bullet
      have known : ch = '-' ∨ ch = '*' ∨ ch = '+' := by simpa using bullet
      rcases known with rfl | rfl | rfl <;> exact absurd digit (by decide)
    have closed : e.Refuses .digit := by
      intro ch next
      rw [step.next?] at next
      obtain rfl := Option.some.inj next
      have known : closing = '.' ∨ closing = ')' := by simpa using allowed
      rcases known with rfl | rfl <;> decide
    have counted := prefers_repeated_one 9 (by decide) some few run all closed
    exact .right (outcomes_one_of_refuses unbulleted)
      (counted.seq (prefers_one (p := ⟨e, p.groups⟩) allowed step))

theorem ListMarker.exists_cons {marker : Text} (formed : ListMarker marker) :
    ∃ ch later, marker = ch :: later ∧
      ((CharSet.oneOf "-*+").test ch = true ∨ CharSet.digit.test ch = true) := by
  rcases formed with ⟨bullet, allowed, rfl⟩ | ⟨digits, closing, some, _, all, _, rfl⟩
  · exact ⟨bullet, [], rfl, Or.inl allowed⟩
  · obtain ⟨ch, later, rfl⟩ := List.exists_cons_of_ne_nil some
    exact ⟨ch, later ++ [closing], rfl, Or.inr (all ch List.mem_cons_self)⟩

theorem not_marker_of_spaceOrTab {ch : Char}
    (begins : (CharSet.oneOf "-*+").test ch = true ∨ CharSet.digit.test ch = true) :
    spaceOrTab.test ch = false := by
  by_contra blank
  rw [Bool.not_eq_false, spaceOrTab_iff] at blank
  rcases blank with rfl | rfl <;> exact absurd begins (by decide)

theorem list_prefers {marker gap : Text} (blanks : AllIn spaceOrTab indent)
    (formed : ListMarker marker) (wide : gap ≠ []) (narrow : AllIn spaceOrTab gap)
    (first : ∀ ch, (content ++ filler).head? = .some ch → spaceOrTab.test ch = false)
    (within : AllIn inLine content) (ended : LineReturn filler)
    (atStart : Assertion.lineStart.holds c = true) (margin : c.Walks indent c₁)
    (marked : c₁.Walks marker c₂) (space : c₂.Walks gap c₃) (text : c₃.Walks content c₄)
    (tail : c₄.Walks filler d) (atEnd : Assertion.lineEnd.holds d = true) :
    Prefers list.regex ⟨c, []⟩ ⟨d, [(4, c₃, c₄), (3, c₂, c₃), (2, c₁, c₂), (1, c, c₁)]⟩ := by
  obtain ⟨ch, later, rfl, begins⟩ := formed.exists_cons
  have sign : c₁.Refuses spaceOrTab := by
    intro x next
    rw [← Option.some.inj (marked.next?.symm.trans next)]
    exact not_marker_of_spaceOrTab begins
  have indented := prefers_star_one (p := ⟨c, []⟩) margin blanks sign
  have marking := prefers_listMarker (p := ⟨c₁, [(1, c, c₁)]⟩) formed marked
  have gapped := prefers_plus_one (p := ⟨c₂, [(2, c₁, c₂), (1, c, c₁)]⟩) wide space narrow
    ((text.trans tail).refuses atEnd first (by decide))
  have filled := prefers_content (p := ⟨c₃, [(3, c₂, c₃), (2, c₁, c₂), (1, c, c₁)]⟩) text within
    ended tail atEnd
  have closing := prefers_return
    (p := ⟨c₄, [(4, c₃, c₄), (3, c₂, c₃), (2, c₁, c₂), (1, c, c₁)]⟩) ended tail atEnd
  exact (prefers_assert atStart).seq ((indented.group 1).seq ((marking.group 2).seq
    ((gapped.group 3).seq ((filled.group 4).seq (closing.seq (prefers_assert atEnd))))))

/-- A text that is cut at two characters is cut at one place, or each of the
characters stands on its side of the other. -/
theorem append_cons_cases {a b u v : Text} {x y : Char} (same : a ++ x :: u = b ++ y :: v) :
    (a = b ∧ x = y ∧ u = v) ∨ (x ∈ b ∧ y ∈ u) ∨ (y ∈ a ∧ x ∈ v) := by
  rcases List.append_eq_append_iff.mp same with ⟨w, split, rest⟩ | ⟨w, split, rest⟩
  all_goals
    cases w with
    | nil =>
        rw [List.append_nil] at split
        obtain ⟨head, tail⟩ := List.cons.inj rest
        exact Or.inl (by simp [split, head, tail])
    | cons z w =>
        obtain ⟨rfl, inside⟩ := List.cons.inj rest
        simp [split, inside]

/-- The last bar of a line is the one behind which there is only filler. -/
theorem table_prefers (blanks : AllIn spaceOrTab indent) (within : AllIn inLine content)
    (filling : AllIn lineFiller filler) (atStart : Assertion.lineStart.holds c = true)
    (margin : c.Walks indent c₁) (opening : c₁.Walks ['|'] c₂) (text : c₂.Walks content c₃)
    (closing : c₃.Walks ['|'] c₄) (tail : c₄.Walks filler d)
    (atEnd : Assertion.lineEnd.holds d = true) :
    Prefers table.regex ⟨c, []⟩ ⟨d, [(4, c₃, c₄), (3, c₂, c₃), (2, c₁, c₂), (1, c, c₁)]⟩ := by
  obtain ⟨m, matched⟩ := table_matches atStart blanks margin opening within text closing filling
    tail atEnd
  obtain ⟨d', groups, first, rfl⟩ := matchAt?_eq_some matched
  obtain ⟨indent', e₁, e₂, content', e₃, e₄, filler', _, blanks', margin', opening', within', text',
    closing', filling', tail', atEnd', same⟩ := table_form (List.mem_of_mem_head? first)
  simp only at tail' atEnd' same
  have whole := margin.trans (opening.trans (text.trans (closing.trans tail)))
  have whole' := margin'.trans (opening'.trans (text'.trans (closing'.trans tail')))
  have clean : ∀ {a b e : Text}, AllIn spaceOrTab a → AllIn inLine b → AllIn lineFiller e →
      '\n' ∉ a ++ (['|'] ++ (b ++ (['|'] ++ e))) := by
    intro a b e first second third
    simp [not_mem_of_allIn first (by decide : spaceOrTab.test '\n' = false),
      not_mem_of_allIn second (by decide : inLine.test '\n' = false),
      not_mem_of_allIn third (by decide : lineFiller.test '\n' = false)]
  have ends := whole.lineEnd_unique whole' (clean blanks within filling)
    (clean blanks' within' filling') atEnd atEnd'
  subst ends
  have spelled := whole.word_unique whole'
  have bar : ∀ {set : CharSet} {w : Text}, AllIn set w → set.test '|' = false → '|' ∉ w :=
    not_mem_of_allIn
  rcases append_cons_cases spelled with ⟨rfl, _, rest⟩ | ⟨inside, _⟩ | ⟨inside, _⟩
  · rcases append_cons_cases rest with ⟨rfl, _, rfl⟩ | ⟨_, inside⟩ | ⟨_, inside⟩
    · obtain rfl := margin.target_unique margin'
      obtain rfl := opening.target_unique opening'
      obtain rfl := text.target_unique text'
      obtain rfl := closing.target_unique closing'
      rwa [same] at first
    · exact absurd inside (bar filling (by decide))
    · exact absurd inside (bar filling' (by decide))
  · exact absurd inside (bar blanks' (by decide))
  · exact absurd inside (bar blanks (by decide))

end Preferred

end Grammar

end MarkdownHighlight
