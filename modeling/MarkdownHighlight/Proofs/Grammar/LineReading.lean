import MarkdownHighlight.Proofs.Claim.Joined
import MarkdownHighlight.Proofs.Grammar.LineForms

/-!
Which lines the patterns of whole lines match. Whatever such a pattern matches
is a line that can be cut into a line form, and every line of that form is
matched from end to end, with the content where the form has it.
-/

namespace MarkdownHighlight

open Regex Grammar

theorem Pattern.InLine.clean {p : Pattern} {c : Cursor} {m : Match} (inLine : p.InLine)
    (found : p.regex.matchAt? c = some m) : ∃ w, c.Walks w m.stop ∧ '\n' ∉ w := by
  obtain ⟨d, groups, first, rfl⟩ := matchAt?_eq_some found
  obtain ⟨w, walk, consumed⟩ := outcomes_walk _ _ _ (List.mem_of_mem_head? first)
  refine ⟨w, walk, fun inside => ?_⟩
  obtain ⟨set, member, allowed⟩ := consumed '\n' inside
  have refused : set.test '\n' = false := inLine set member
  rw [refused] at allowed
  cases allowed

def Cursor.SpellsLine (c d : Cursor) (type : TokenType) : Prop :=
  ∃ kind lead content filler, c.Line d (lead ++ content ++ filler) ∧
    LineForm kind lead content filler ∧ kind.type = type

/-- A pattern that matches the lines of its form, and nothing else. -/
structure Pattern.ReadsLines (p : Pattern) : Prop where
  spells : ∀ c m, p.regex.matchAt? c = some m → c.SpellsLine m.stop p.type
  reads : ∀ c d kind lead content filler, c.Line d (lead ++ content ++ filler) →
    LineForm kind lead content filler → kind.type = p.type →
    ∃ m, p.regex.matchAt? c = some m ∧ m.stop = d ∧
      p.ReadsAs c m kind ⟨c.offset + lead.size, c.offset + (lead ++ content).size⟩

namespace Grammar

section Cuts

theorem exists_lead (set : CharSet) (w : Text) :
    ∃ a b, w = a ++ b ∧ AllIn set a ∧ ∀ ch, b.head? = some ch → set.test ch = false := by
  refine ⟨w.takeWhile set.test, w.dropWhile set.test, ?_, fun ch => List.mem_takeWhile_imp, ?_⟩
  · rw [List.takeWhile_append_dropWhile]
  · intro ch head
    have stopped := List.head?_dropWhile_not set.test w
    rwa [head] at stopped

theorem exists_trim (set : CharSet) (w : Text) :
    ∃ a b, w = a ++ b ∧ AllIn set b ∧ ∀ ch, a.getLast? = some ch → set.test ch = false := by
  obtain ⟨a, b, split, all, stopped⟩ := exists_lead set w.reverse
  refine ⟨b.reverse, a.reverse, ?_, ?_, ?_⟩
  · rw [← List.reverse_append, ← split, List.reverse_reverse]
  · exact fun ch inside => all ch (List.mem_reverse.mp inside)
  · rwa [List.getLast?_reverse]

theorem exists_quoteSigns (w tail : Text)
    (ended : ∀ ch, tail.head? = some ch → ch ≠ '>' ∧ spaceOrTab.test ch = false) :
    ∃ signs rest, w = signs.flatten ++ rest ∧ QuoteSigns (rest ++ tail) signs := by
  induction bound : w.length using Nat.strongRecOn generalizing w with
  | ind n ih =>
      by_cases signed : w.head? = some '>'
      · obtain ⟨more, rfl⟩ := List.head?_eq_some_iff.mp signed
        rw [List.length_cons] at bound
        by_cases spaced : ∃ blank later, more = blank :: later ∧ spaceOrTab.test blank = true
        · obtain ⟨blank, later, rfl, allowed⟩ := spaced
          rw [List.length_cons] at bound
          obtain ⟨signs, rest, rfl, greedy⟩ := ih later.length (by omega) later rfl
          exact ⟨['>', blank] :: signs, rest, rfl, .spaced greedy allowed⟩
        · obtain ⟨signs, rest, rfl, greedy⟩ := ih more.length (by omega) more rfl
          refine ⟨['>'] :: signs, rest, rfl, .bare greedy ?_⟩
          intro ch head
          rw [← List.append_assoc] at head
          cases split : signs.flatten ++ rest with
          | nil =>
              rw [split] at head
              exact (ended ch head).2
          | cons first later =>
              rw [split] at head
              obtain rfl := Option.some.inj head
              by_contra blank
              exact spaced ⟨first, later, split, by simpa using blank⟩
      · refine ⟨[], w, rfl, .none ?_⟩
        rintro ch head rfl
        cases w with
        | nil => exact (ended _ head).1 rfl
        | cons first later => exact signed head

end Cuts

section Lines

variable {c d : Cursor} {line w : Text}

theorem line_of_match {p : Pattern} {m : Match} (inLine : p.InLine)
    (found : p.regex.matchAt? c = some m) (walk : c.Walks line m.stop)
    (atStart : Assertion.lineStart.holds c = true) (atEnd : Assertion.lineEnd.holds m.stop = true) :
    c.Line m.stop line := by
  obtain ⟨w, spelled, clean⟩ := inLine.clean found
  rw [spelled.word_unique walk] at clean
  exact ⟨walk, atStart, atEnd, clean⟩

theorem matchAt?_of_prefers {r : Regex} {groups : List (Nat × Cursor × Cursor)}
    (first : Prefers r ⟨c, []⟩ ⟨d, groups⟩) : r.matchAt? c = some ⟨c, d, groups⟩ := by
  rw [matchAt?_eq_head?, first]
  rfl

theorem headerLevel_eq {hashes : Text} (signs : AllIn (.single '#') hashes)
    (few : hashes.length ≤ 6) : Extraction.headerLevel hashes = hashes.length := by
  have size : Text.size hashes = hashes.length := by
    clear few
    induction hashes with
    | nil => rfl
    | cons ch later ih =>
        obtain ⟨sign, others⟩ := List.forall_mem_cons.mp signs
        have same : ch = '#' := by simpa [CharSet.test] using sign
        have width : '#'.utf8Size = 1 := by decide
        rw [Text.size, ih others, same, width, List.length_cons, Nat.add_comm]
  rw [Extraction.headerLevel, size]
  omega

theorem allIn_append {set : CharSet} {a b : Text} (first : AllIn set a) (second : AllIn set b) :
    AllIn set (a ++ b) :=
  fun ch inside => (List.mem_append.mp inside).elim (first ch) (second ch)

theorem allIn_notNewline (clean : '\n' ∉ w) : AllIn notNewline w := by
  intro ch inside
  have other : ch ≠ '\n' := fun same => clean (same ▸ inside)
  simp [notNewline, CharSet.test, other]

theorem header_readsLines : header.ReadsLines where
  spells := by
    intro c m found
    obtain ⟨d, groups, first, rfl⟩ := matchAt?_eq_some found
    obtain ⟨hashes, c₁, gap, c₂, content, c₃, filler, atStart, some, few, signs, marker, wide,
      blanks, space, _, text, _, tail, atEnd, _⟩ := header_form (List.mem_of_mem_head? first)
    obtain ⟨more, body, split, narrow, solid⟩ := exists_lead spaceOrTab (content ++ filler)
    obtain ⟨content', filler', rfl, filling, last⟩ := exists_trim lineFiller body
    have whole := marker.trans (space.trans (text.trans tail))
    rw [split] at whole
    have spelled : c.Walks (hashes ++ (gap ++ more) ++ content' ++ filler') d := by
      simpa using whole
    have line := line_of_match (inLine_of_tail header (by simp [markdown])) found spelled atStart
      atEnd
    exact ⟨_, _, _, _, line, .header some few signs (by simp [wide]) (allIn_append blanks narrow)
      solid last filling, rfl⟩
  reads := by
    intro c d kind lead content filler line form typed
    cases form with
    | @header hashes gap _ _ some few signs wide blanks first last filling =>
        have clean := line.clean
        simp only [List.mem_append, not_or] at clean
        obtain ⟨c₃, front, tail⟩ := line.walk.of_append
        obtain ⟨c₂, front, text⟩ := front.of_append
        obtain ⟨c₁, marker, space⟩ := front.of_append
        have preferred := header_prefers some few signs wide blanks first last
          (allIn_notNewline clean.1.2) filling line.first marker space text tail line.last
        have read := header_readsAs line.first some marker wide blanks space text filling tail
          line.last
        rw [headerLevel_eq signs few] at read
        refine ⟨_, matchAt?_of_prefers preferred, rfl, ?_⟩
        rw [← front.offset, ← (front.trans text).offset]
        exact read
    | _ => cases typed

theorem lineReturn_head {filler : Text} (ended : LineReturn filler) :
    ∀ ch, filler.head? = some ch → ch ≠ '>' ∧ spaceOrTab.test ch = false := by
  rcases ended with rfl | rfl
  · nofun
  · intro ch head
    rw [← Option.some.inj head]
    decide

theorem blockquote_readsLines : blockquote.ReadsLines where
  spells := by
    intro c m found
    obtain ⟨d, groups, first, rfl⟩ := matchAt?_eq_some found
    obtain ⟨indent, c₁, signs, c₂, content, c₃, filler, atStart, blanks, margin, some, formed,
      marker, within, text, ended, tail, atEnd, _⟩ := blockquote_form (List.mem_of_mem_head? first)
    obtain ⟨signs', content', split, greedy⟩ :=
      exists_quoteSigns (signs.flatten ++ content) filler (lineReturn_head ended)
    have signed : AllIn inLine signs.flatten :=
      forall_of_oneOf "> \t" (by decide) (quoteSigns_allIn formed)
    have inside := allIn_append signed within
    have whole := margin.trans ((marker.trans text).trans tail)
    rw [split] at whole inside
    have some' : signs' ≠ [] := by
      rintro rfl
      obtain ⟨sign, others, rfl⟩ := List.exists_cons_of_ne_nil some
      cases greedy with
      | none ended =>
          rw [List.flatten_nil, List.nil_append] at split
          rw [← split] at ended
          rcases formed sign List.mem_cons_self with rfl | ⟨blank, _, rfl⟩ <;>
            exact ended '>' rfl rfl
    have spelled : c.Walks (indent ++ signs'.flatten ++ content' ++ filler) d := by
      simpa using whole
    have line := line_of_match (inLine_of_tail blockquote (by simp [markdown])) found spelled atStart
      atEnd
    exact ⟨_, _, _, _, line, .blockquote blanks some' greedy
      (fun ch member => inside ch (List.mem_append_right _ member)) ended, rfl⟩
  reads := by
    intro c d kind lead content filler line form typed
    cases form with
    | @blockquote indent _ _ signs blanks some greedy within ended =>
        obtain ⟨c₃, front, tail⟩ := line.walk.of_append
        obtain ⟨c₂, front, text⟩ := front.of_append
        obtain ⟨c₁, margin, marker⟩ := front.of_append
        have preferred := blockquote_prefers blanks greedy some within ended line.first margin marker
          text tail line.last
        have read := blockquote_readsAs line.first margin some greedy.all marker text ended tail
          line.last
        refine ⟨_, matchAt?_of_prefers preferred, rfl, ?_⟩
        rw [← front.offset, ← (front.trans text).offset]
        exact read
    | _ => cases typed

theorem list_readsLines : list.ReadsLines where
  spells := by
    intro c m found
    obtain ⟨d, groups, first, rfl⟩ := matchAt?_eq_some found
    obtain ⟨indent, c₁, marker, c₂, gap, c₃, content, c₄, filler, atStart, blanks, margin, formed,
      marked, wide, narrow, space, within, text, ended, tail, atEnd, _⟩ :=
      list_form (List.mem_of_mem_head? first)
    obtain ⟨more, content', rfl, blank, solid⟩ := exists_lead spaceOrTab content
    have whole := margin.trans (marked.trans (space.trans (text.trans tail)))
    have first : ∀ ch, (content' ++ filler).head? = .some ch → spaceOrTab.test ch = false := by
      intro ch head
      cases content' with
      | nil => exact (lineReturn_head ended ch head).2
      | cons => exact solid ch head
    have spelled : c.Walks (indent ++ marker ++ (gap ++ more) ++ content' ++ filler) d := by
      simpa using whole
    have line := line_of_match (inLine_of_tail list (by simp [markdown])) found spelled atStart
      atEnd
    exact ⟨_, _, _, _, line, .list blanks formed (by simp [wide]) (allIn_append narrow blank) first
      (fun ch member => within ch (List.mem_append_right _ member)) ended, rfl⟩
  reads := by
    intro c d kind lead content filler line form typed
    cases form with
    | @list indent marker gap _ _ blanks formed wide narrow first within ended =>
        obtain ⟨c₄, front, tail⟩ := line.walk.of_append
        obtain ⟨c₃, front, text⟩ := front.of_append
        obtain ⟨c₂, opening, space⟩ := front.of_append
        obtain ⟨c₁, margin, marked⟩ := opening.of_append
        have preferred := list_prefers blanks formed wide narrow first within ended line.first margin
          marked space text tail line.last
        have read := list_readsAs line.first blanks margin marked wide narrow space text ended tail
          line.last
        refine ⟨_, matchAt?_of_prefers preferred, rfl, ?_⟩
        rw [← front.offset, ← (front.trans text).offset]
        exact read
    | _ => cases typed

theorem table_readsLines : table.ReadsLines where
  spells := by
    intro c m found
    obtain ⟨d, groups, first, rfl⟩ := matchAt?_eq_some found
    obtain ⟨indent, c₁, c₂, content, c₃, c₄, filler, atStart, blanks, margin, opening, within, text,
      closing, filling, tail, atEnd, _⟩ := table_form (List.mem_of_mem_head? first)
    have whole := margin.trans (opening.trans (text.trans (closing.trans tail)))
    have spelled : c.Walks (indent ++ ['|'] ++ content ++ '|' :: filler) d := by
      simpa using whole
    have line := line_of_match (inLine_of_tail table (by simp [markdown])) found spelled atStart
      atEnd
    exact ⟨_, _, _, _, line, .table blanks within filling, rfl⟩
  reads := by
    intro c d kind lead content filler line form typed
    cases form with
    | @table indent _ filler blanks within filling =>
        obtain ⟨c₃, front, rest⟩ := line.walk.of_append
        obtain ⟨c₂, front, text⟩ := front.of_append
        obtain ⟨c₁, margin, opening⟩ := front.of_append
        obtain ⟨c₄, closing, tail⟩ := Cursor.Walks.of_append (v := ['|']) (w := filler) rest
        have preferred := table_prefers blanks within filling line.first margin opening text closing
          tail line.last
        have read := table_readsAs line.first margin opening text closing tail line.last
        refine ⟨_, matchAt?_of_prefers preferred, rfl, ?_⟩
        rw [← front.offset, ← (front.trans text).offset]
        exact read
    | _ => cases typed

end Lines

end Grammar

namespace TokenType

def isLine : TokenType → Bool
  | .header | .blockquote | .list | .table => true
  | _ => false

def ofSign (ch : Char) : TokenType :=
  if ch = '#' then .header else if ch = '>' then .blockquote else if ch = '|' then .table else .list

end TokenType

theorem LineForm.sign {kind : TokenKind} {lead content filler : Text}
    (form : LineForm kind lead content filler) :
    ∃ indent ch rest, lead = indent ++ ch :: rest ∧ AllIn spaceOrTab indent ∧
      spaceOrTab.test ch = false ∧ kind.type = TokenType.ofSign ch := by
  cases form with
  | @header hashes gap _ _ some _ signs =>
      obtain ⟨ch, later, rfl⟩ := List.exists_cons_of_ne_nil some
      have sign : ch = '#' := by simpa [CharSet.test] using signs ch List.mem_cons_self
      exact ⟨[], ch, later ++ gap, rfl, List.forall_mem_nil _, by rw [sign]; decide,
        by rw [sign]; rfl⟩
  | blockquote blanks some greedy =>
      obtain ⟨later, signed⟩ := greedy.exists_cons some
      exact ⟨_, '>', later, by rw [signed], blanks, by decide, rfl⟩
  | @list indent marker gap _ _ blanks formed =>
      obtain ⟨ch, later, rfl, begins⟩ := formed.exists_cons
      refine ⟨indent, ch, later ++ gap, by simp, blanks, not_marker_of_spaceOrTab begins, ?_⟩
      have apart : ch ≠ '#' ∧ ch ≠ '>' ∧ ch ≠ '|' := by
        refine ⟨?_, ?_, ?_⟩ <;> rintro rfl <;> exact absurd begins (by decide)
      simp [TokenType.ofSign, apart, TokenKind.type]
  | table blanks => exact ⟨_, '|', [], rfl, blanks, by decide, rfl⟩

theorem LineForm.isLine {kind : TokenKind} {lead content filler : Text}
    (form : LineForm kind lead content filler) : kind.type.isLine = true := by
  cases form <;> rfl

theorem LineForm.type_unique {kind kind' : TokenKind}
    {lead content filler lead' content' filler' : Text}
    (form : LineForm kind lead content filler) (form' : LineForm kind' lead' content' filler')
    (same : lead ++ content ++ filler = lead' ++ content' ++ filler') : kind.type = kind'.type := by
  obtain ⟨indent, ch, rest, rfl, blanks, solid, type⟩ := form.sign
  obtain ⟨indent', ch', rest', rfl, blanks', solid', type'⟩ := form'.sign
  simp only [List.append_assoc, List.cons_append] at same
  rcases append_cons_cases same with ⟨_, sign, _⟩ | ⟨inside, _⟩ | ⟨inside, _⟩
  · rw [type, type', sign]
  · exact absurd inside (not_mem_of_allIn blanks' solid)
  · exact absurd inside (not_mem_of_allIn blanks solid')

namespace Grammar

theorem markdown_readsLines : ∀ p ∈ markdown, p.type.isLine = true → p.ReadsLines := by
  simp only [markdown, List.forall_mem_cons]
  refine ⟨?_, ?_, fun _ => header_readsLines, ?_, ?_, ?_, ?_, fun _ => blockquote_readsLines,
    fun _ => list_readsLines, fun _ => table_readsLines, List.forall_mem_nil _⟩
  all_goals rintro ⟨⟩

theorem exists_pattern_of_isLine {type : TokenType} (lines : type.isLine = true) :
    ∃ p ∈ markdown, p.type = type := by
  cases type with
  | header => exact ⟨header, by simp [markdown], rfl⟩
  | blockquote => exact ⟨blockquote, by simp [markdown], rfl⟩
  | list => exact ⟨list, by simp [markdown], rfl⟩
  | table => exact ⟨table, by simp [markdown], rfl⟩
  | _ => cases lines

end Grammar

theorem Cursor.exists_line_of_clean {w : Text} (clean : '\n' ∉ w) : ∃ c d : Cursor, c.Line d w := by
  obtain ⟨d, walk, ended⟩ := (Cursor.atStart w).exists_walk w [] (List.append_nil w).symm
  refine ⟨_, d, walk, rfl, ?_, clean⟩
  rw [Assertion.holds, next?, ended]
  rfl

theorem LineForm.unique {kind kind' : TokenKind} {lead content filler lead' content' filler' : Text}
    (form : LineForm kind lead content filler) (form' : LineForm kind' lead' content' filler')
    (clean : '\n' ∉ lead ++ content ++ filler)
    (same : lead ++ content ++ filler = lead' ++ content' ++ filler') :
    kind = kind' ∧ lead = lead' ∧ content = content' ∧ filler = filler' := by
  obtain ⟨p, member, type⟩ := exists_pattern_of_isLine form.isLine
  have readsLines := markdown_readsLines p member (type ▸ form.isLine)
  -- The pattern reads the line once, and so both forms where it reads them.
  obtain ⟨c, d, line⟩ := Cursor.exists_line_of_clean clean
  obtain ⟨m, found, _, t, reads, rfl, held⟩ :=
    readsLines.reads c d kind lead content filler line form type.symm
  obtain ⟨m', found', _, t', reads', rfl, held'⟩ :=
    readsLines.reads c d kind' lead' content' filler' (same ▸ line) form'
      ((form.type_unique form' same).symm.trans type.symm)
  obtain rfl := Option.some.inj (found.symm.trans found')
  obtain rfl := Except.ok.inj (reads.extracted.symm.trans reads'.extracted)
  have place := Option.some.inj (held.symm.trans held')
  simp only [Span.mk.injEq, Text.size_append] at place
  have cuts := same
  rw [List.append_assoc, List.append_assoc] at cuts
  obtain ⟨rfl, rest⟩ := Text.append_inj cuts (by omega)
  obtain ⟨rfl, rfl⟩ := Text.append_inj rest (by omega)
  exact ⟨rfl, rfl, rfl, rfl⟩

end MarkdownHighlight
