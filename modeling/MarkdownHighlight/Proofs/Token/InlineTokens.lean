import MarkdownHighlight.Proofs.Token.BlockLines

/-!
The tokens of inline constructs. What such a token tells is enough to write its source
again: delimiter, content, delimiter, or the brackets of a link around its text and its
destination. The content keeps the rules of its construct, and an underscore marks
emphasis only where no word goes on.
-/

namespace MarkdownHighlight

open Regex Grammar

structure Edged (sign : Char) (content : Text) : Prop where
  nonempty : content ≠ []
  edges : ∀ ch, content.head? = some ch ∨ content.getLast? = some ch →
    Text.isBlank ch = false ∧ ch ≠ sign

def ApartFromWords (sign : Char) (before after : Option Char) : Prop :=
  sign = '_' → ∀ ch, before = some ch ∨ after = some ch → Text.isWordChar ch = false

inductive InlineForm (before after : Option Char) : TokenKind → Text → Prop
  | codeInline {content : Text} (nonempty : content ≠ []) (plain : '`' ∉ content) :
      InlineForm before after (.codeInline content) (['`'] ++ content ++ ['`'])
  | bold {sign : Char} {content : Text} (known : sign = '*' ∨ sign = '_')
      (edged : Edged sign content) (apart : ApartFromWords sign before after) :
      InlineForm before after (.bold content [sign, sign])
        ([sign, sign] ++ content ++ [sign, sign])
  | italic {sign : Char} {content : Text} (known : sign = '*' ∨ sign = '_')
      (edged : Edged sign content) (plain : sign ∉ content)
      (apart : ApartFromWords sign before after) :
      InlineForm before after (.italic content [sign]) ([sign] ++ content ++ [sign])
  | strikethrough {content : Text} (edged : Edged '~' content) (plain : '~' ∉ content) :
      InlineForm before after (.strikethrough content ['~', '~'])
        (['~', '~'] ++ content ++ ['~', '~'])
  | link (text url : Text) (image : Bool) :
      InlineForm before after (.link text (.url url) image)
        ((if image then ['!'] else []) ++ ['['] ++ text ++ [']', '('] ++ url ++ [')'])
  | reference (text label : Text) (image : Bool) :
      InlineForm before after (.link text (.reference label) image)
        ((if image then ['!'] else []) ++ ['['] ++ text ++ [']', '['] ++ label ++ [']'])

def Pattern.SpellsForm (p : Pattern) : Prop :=
  ∀ c m, p.regex.matchAt? c = some m → ∃ kind w content,
    c.Walks w m.stop ∧ InlineForm c.previous? m.stop.next? kind w ∧ p.ReadsAs c m kind content

section Edges

variable {sign : Char} {middle : CharSet} {w : Text} {c d : Cursor}

theorem edge_iff (sign ch : Char) :
    (edge sign).test ch = true ↔ Text.isBlank ch = false ∧ ch ≠ sign := by
  simp [edge, CharSet.ofItems, CharSet.test]

theorem edged_of_between (between : Between (edge sign) middle w) : Edged sign w := by
  obtain ⟨first, inner, atFirst, rfl, rest⟩ := between
  refine ⟨List.cons_ne_nil _ _, ?_⟩
  rintro ch (there | there)
  · obtain rfl : first = ch := by simpa using there
    exact (edge_iff sign _).mp atFirst
  · rcases rest with rfl | ⟨body, last, rfl, _, atLast⟩
    · obtain rfl : first = ch := by simpa using there
      exact (edge_iff sign _).mp atFirst
    · obtain rfl : last = ch := by
        rwa [← List.cons_append, List.getLast?_concat, Option.some.injEq] at there
      exact (edge_iff sign _).mp atLast

theorem not_mem_of_between (between : Between (edge sign) middle w)
    (refused : middle.test sign = false) : sign ∉ w := by
  obtain ⟨first, inner, atFirst, rfl, rest⟩ := between
  have foreign : ∀ ch, (edge sign).test ch = true → sign ≠ ch :=
    fun ch atEdge => ((edge_iff sign ch).mp atEdge).2.symm
  rcases rest with rfl | ⟨body, last, rfl, all, atLast⟩
  · simpa using foreign first atFirst
  · simp only [List.mem_cons, List.mem_append, List.not_mem_nil, or_false, not_or]
    exact ⟨foreign first atFirst, not_mem_of_allIn all refused, foreign last atLast⟩

theorem apartFromWords (before : (Assertion.wordBoundary .word).holds c = true)
    (after : (Assertion.wordBoundary .word).holds d = true) (next : c.next? = some '_')
    (previous : d.previous? = some '_') : ApartFromWords '_' c.previous? d.next? := by
  rintro - ch beside
  have letter : Text.isWordChar '_' = true := by decide
  rw [Assertion.holds, Assertion.wordBefore, Assertion.wordAfter, next] at before
  rw [Assertion.holds, Assertion.wordBefore, Assertion.wordAfter, previous] at after
  rcases beside with shown | shown
  · simpa [shown, letter, CharSet.test] using before
  · simpa [shown, letter, CharSet.test] using after

theorem apartFromWords_star : ApartFromWords '*' c.previous? d.next? :=
  fun same => absurd same (by decide)

end Edges

namespace Grammar

theorem codeInline_spellsForm : codeInline.SpellsForm := by
  intro c m found
  obtain ⟨d, groups, first, rfl⟩ := matchAt?_eq_some found
  obtain ⟨c₁, w, c₂, opening, nonempty, content, all, closing, same⟩ :=
    codeInline_form (List.mem_of_mem_head? first)
  simp only at closing same
  subst same
  have plain : '`' ∉ w := not_mem_of_allIn all (by decide)
  exact ⟨_, _, _, (opening.trans content).trans closing, .codeInline nonempty plain,
    codeInline_readsAs opening content closing⟩

theorem bold_spellsForm : bold.SpellsForm := by
  intro c m found
  obtain ⟨d, groups, first, rfl⟩ := matchAt?_eq_some found
  rcases bold_markedAs (List.mem_of_mem_head? first) with
    ⟨w, content, walk, between, read⟩ | ⟨⟨w, content, walk, between, read⟩, before, after⟩
  · refine ⟨_, _, _, List.append_assoc .. ▸ walk, ?_, read⟩
    exact .bold (Or.inl rfl) (edged_of_between between) apartFromWords_star
  · have previous := (show c.Walks ((['_', '_'] ++ w ++ ['_']) ++ ['_']) d by
      simpa using walk).previous?
    refine ⟨_, _, _, List.append_assoc .. ▸ walk, ?_, read⟩
    exact .bold (Or.inr rfl) (edged_of_between between)
      (apartFromWords before after walk.next? previous)

theorem italic_spellsForm : italic.SpellsForm := by
  intro c m found
  obtain ⟨d, groups, first, rfl⟩ := matchAt?_eq_some found
  rcases italic_markedAs (List.mem_of_mem_head? first) with
    ⟨w, content, walk, between, read⟩ | ⟨⟨w, content, walk, between, read⟩, before, after⟩
  · refine ⟨_, _, _, List.append_assoc .. ▸ walk, ?_, read⟩
    exact .italic (Or.inl rfl) (edged_of_between between)
      (not_mem_of_between between (by decide)) apartFromWords_star
  · have previous := (show c.Walks ((['_'] ++ w) ++ ['_']) d by simpa using walk).previous?
    refine ⟨_, _, _, List.append_assoc .. ▸ walk, ?_, read⟩
    exact .italic (Or.inr rfl) (edged_of_between between)
      (not_mem_of_between between (by decide))
      (apartFromWords before after walk.next? previous)

theorem strikethrough_spellsForm : strikethrough.SpellsForm := by
  intro c m found
  obtain ⟨d, groups, first, rfl⟩ := matchAt?_eq_some found
  obtain ⟨w, content, walk, between, read⟩ := strikethrough_markedAs (List.mem_of_mem_head? first)
  refine ⟨_, _, _, List.append_assoc .. ▸ walk, ?_, read⟩
  exact .strikethrough (edged_of_between between) (not_mem_of_between between (by decide))

theorem link_spellsForm : link.SpellsForm := by
  intro c m found
  obtain ⟨d, groups, first, rfl⟩ := matchAt?_eq_some found
  obtain ⟨sign, c₁, words, c₂, c₃, target, c₄, spelled, opening, _, text, aim, rest⟩ :=
    link_form (List.mem_of_mem_head? first)
  have image : sign = (if sign.head? == some '!' then ['!'] else []) ++ ['['] := by
    rcases spelled with rfl | rfl <;> rfl
  rcases rest with ⟨separator, closing, _, same⟩ | ⟨separator, closing, _, same⟩
  all_goals
    simp only at closing same
    subst same
    have whole := (((opening.trans text).trans separator).trans aim).trans closing
    rw [image] at whole
  · exact ⟨_, _, _, whole, .link words target _,
      (link_readsAs spelled opening text aim).1 separator closing⟩
  · exact ⟨_, _, _, whole, .reference words target _,
      (link_readsAs spelled opening text aim).2 separator closing⟩

theorem markdown_spellsForm : ∀ p ∈ markdown.tail, p.type.isLine = false → p.SpellsForm := by
  simp only [markdown, List.tail_cons, List.forall_mem_cons]
  refine ⟨fun _ => codeInline_spellsForm, ?_, fun _ => bold_spellsForm,
    fun _ => italic_spellsForm, fun _ => strikethrough_spellsForm, fun _ => link_spellsForm,
    ?_, ?_, ?_, List.forall_mem_nil _⟩
  all_goals rintro ⟨⟩

end Grammar

/-- Every token of an inline construct, however deep in the tree, stands within a line and
is written as its kind says, between the characters that stand beside it in the text. -/
theorem tokenize_inline_spelled (text : Text) : ∃ nodes, tokenize text = .ok nodes ∧
    ∀ t ∈ Node.tokensAll nodes,
      t.type ∈ [.bold, .italic, .strikethrough, .codeInline, .link] →
      '\n' ∉ t.source.text ∧ ∃ ahead behind, text = ahead ++ t.source.text ++ behind ∧
        ahead.size = t.source.start ∧
        InlineForm ahead.getLast? behind.head? t.kind t.source.text := by
  obtain ⟨nodes, made, same, -⟩ := tokenize_accepts text
  refine ⟨nodes, made, fun t inside inline => ?_⟩
  have nested := Plain.accept_nested markdown markdown_lawful text
  obtain ⟨p, member, c, m, rfl, found, reads⟩ := nested.sourced t ((same t).mp inside)
  have type := reads.type_eq
  have kinds : t.type ≠ .codeBlock ∧ t.type.isLine = false := by
    simp only [List.mem_cons, List.not_mem_nil, or_false] at inline
    rcases inline with shape | shape | shape | shape | shape <;> rw [shape] <;> decide
  have inTail : p ∈ markdown.tail := by
    rcases List.mem_cons.mp member with rfl | inTail
    · exact absurd type kinds.1
    · exact inTail
  obtain ⟨kind, w, content, walk, form, t', reads', rfl, -⟩ :=
    markdown_spellsForm p inTail (type ▸ kinds.2) c m found
  obtain rfl : t = t' := Except.ok.inj (reads.extracted.symm.trans reads'.extracted)
  obtain ⟨v, walk', clean⟩ := (inLine_of_tail p inTail).clean found
  obtain rfl := walk.word_unique walk'
  rw [reads.source, walk.excerptTo]
  refine ⟨clean, c.before.reverse, m.stop.rest, ?_, ?_, ?_⟩
  · rw [List.append_assoc, ← walk.rest_eq]
    rfl
  · rw [Cursor.size_reverse]
    exact c.offset_eq.symm
  · rwa [List.getLast?_reverse]

end MarkdownHighlight
