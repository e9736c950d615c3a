import MarkdownHighlight.Proofs.Grammar.LineReading

/-!
Inline constructs in the lines of the others. An inline construct begins and ends
with signs that stand neither before the content of a line form nor behind it,
but for the bullet of a list, which a blank follows. So if it stands in the line
at all it stands in the content.
-/

namespace MarkdownHighlight

open Regex Grammar

def opensInline : CharSet := .oneOf "`*_~!["

def closesInline : CharSet := .oneOf "`*_~)]"

structure Inlined (w : Text) : Prop where
  opens : ∃ ch later, w = ch :: later ∧ opensInline.test ch = true ∧
    (ch = '*' → ∃ next, later.head? = some next ∧ spaceOrTab.test next = false)
  closes : ∃ front ch, w = front ++ [ch] ∧ closesInline.test ch = true
  clean : '\n' ∉ w

namespace Grammar

variable {c : Cursor} {m : Match}

theorem solid_of_edge {marker ch : Char} (atEdge : (edge marker).test ch = true) :
    spaceOrTab.test ch = false := by
  by_contra blank
  rw [Bool.not_eq_false, spaceOrTab_iff] at blank
  have wide : Text.isBlank ch = true := by
    rcases blank with rfl | rfl <;> decide
  simp [edge, CharSet.ofItems, CharSet.test, wide] at atEdge

/-- Marker, content, marker; a star that opens alone stands before the content. -/
theorem inlined_of_delimited {ch : Char} (rest : Text) {index : Nat} {ends middle : CharSet}
    {q : Progress} (form : Delimited (rest ++ [ch]) index ends middle c q)
    (inner : ∀ x, ends.test x = true → spaceOrTab.test x = false)
    (uniform : ∀ x ∈ rest, x = ch) (sign : ch = '*' ∨ ch = '_' ∨ ch = '~') :
    ∃ w, c.Walks w q.cursor ∧ ('\n' ∉ w → Inlined w) := by
  obtain ⟨c₁, v, c₂, opening, ⟨first, later, atFirst, rfl, _⟩, content, closing, _⟩ := form
  have opens : opensInline.test ch = true ∧ closesInline.test ch = true ∧
      spaceOrTab.test ch = false := by
    rcases sign with rfl | rfl | rfl <;> decide
  refine ⟨_, opening.trans (content.trans closing), fun clean => ⟨?_, ?_, clean⟩⟩
  · cases rest with
    | nil => exact ⟨ch, _, rfl, opens.1, fun _ => ⟨first, rfl, inner first atFirst⟩⟩
    | cons x rest =>
        obtain rfl := uniform x List.mem_cons_self
        refine ⟨x, _, rfl, opens.1, fun _ => ?_⟩
        cases rest with
        | nil => exact ⟨x, rfl, opens.2.2⟩
        | cons y rest =>
            obtain rfl := uniform y (by simp)
            exact ⟨y, rfl, opens.2.2⟩
  · exact ⟨rest ++ [ch] ++ (first :: later ++ rest), ch, by simp, opens.2.1⟩

theorem Inlined.of_walk {p : Pattern} {w : Text} (inLine : p.InLine)
    (found : p.regex.matchAt? c = some m) (walk : c.Walks w m.stop)
    (inlined : '\n' ∉ w → Inlined w) : ∃ w, c.Walks w m.stop ∧ Inlined w := by
  obtain ⟨v, spelled, clean⟩ := inLine.clean found
  rw [spelled.word_unique walk] at clean
  exact ⟨w, walk, inlined clean⟩

end Grammar

def Pattern.SpellsInline (p : Pattern) : Prop :=
  ∀ c m, p.regex.matchAt? c = some m → ∃ w, c.Walks w m.stop ∧ Inlined w

namespace Grammar

theorem codeInline_spellsInline : codeInline.SpellsInline := by
  intro c m found
  obtain ⟨d, groups, first, rfl⟩ := matchAt?_eq_some found
  obtain ⟨c₁, w, c₂, opening, _, content, _, closing, _⟩ :=
    codeInline_form (List.mem_of_mem_head? first)
  have whole := opening.trans (content.trans closing)
  refine Inlined.of_walk (inLine_of_tail codeInline (by simp [markdown])) found whole fun clean => ?_
  exact ⟨⟨_, _, rfl, by decide, fun star => absurd star (by decide)⟩,
    ⟨['`'] ++ w, '`', by simp, by decide⟩, clean⟩

theorem bold_spellsInline : bold.SpellsInline := by
  intro c m found
  obtain ⟨d, groups, first, rfl⟩ := matchAt?_eq_some found
  have inLine := inLine_of_tail bold (by simp [markdown])
  rcases bold_form (List.mem_of_mem_head? first) with form | ⟨form, _⟩
  · obtain ⟨w, walk, inlined⟩ := inlined_of_delimited ['*'] form (fun _ => solid_of_edge)
      (by simp) (by simp)
    exact Inlined.of_walk inLine found walk inlined
  · obtain ⟨w, walk, inlined⟩ := inlined_of_delimited ['_'] form (fun _ => solid_of_edge)
      (by simp) (by simp)
    exact Inlined.of_walk inLine found walk inlined

theorem italic_spellsInline : italic.SpellsInline := by
  intro c m found
  obtain ⟨d, groups, first, rfl⟩ := matchAt?_eq_some found
  have inLine := inLine_of_tail italic (by simp [markdown])
  rcases italic_form (List.mem_of_mem_head? first) with form | ⟨form, _⟩
  · obtain ⟨w, walk, inlined⟩ := inlined_of_delimited [] form (fun _ => solid_of_edge)
      (by simp) (by simp)
    exact Inlined.of_walk inLine found walk inlined
  · obtain ⟨w, walk, inlined⟩ := inlined_of_delimited [] form (fun _ => solid_of_edge)
      (by simp) (by simp)
    exact Inlined.of_walk inLine found walk inlined

theorem strikethrough_spellsInline : strikethrough.SpellsInline := by
  intro c m found
  obtain ⟨d, groups, first, rfl⟩ := matchAt?_eq_some found
  have form := strikethrough_form (List.mem_of_mem_head? first)
  obtain ⟨w, walk, inlined⟩ := inlined_of_delimited ['~'] form (fun _ => solid_of_edge)
    (by simp) (by simp)
  exact Inlined.of_walk (inLine_of_tail strikethrough (by simp [markdown])) found walk inlined

theorem link_spellsInline : link.SpellsInline := by
  intro c m found
  obtain ⟨d, groups, first, rfl⟩ := matchAt?_eq_some found
  have inLine := inLine_of_tail link (by simp [markdown])
  obtain ⟨sign, c₁, words, c₂, c₃, target, c₄, spelled, opening, _, text, aim, rest⟩ :=
    link_form (List.mem_of_mem_head? first)
  have opens : ∃ ch later, sign = ch :: later ∧ opensInline.test ch = true ∧ ch ≠ '*' := by
    rcases spelled with rfl | rfl <;> exact ⟨_, _, rfl, by decide, by decide⟩
  obtain ⟨ch, later, rfl, open', other⟩ := opens
  -- The two kinds of links differ in the bracket that closes them.
  rcases rest with ⟨separator, closing, _, _⟩ | ⟨separator, closing, _, _⟩
  · have whole := opening.trans (text.trans (separator.trans (aim.trans closing)))
    refine Inlined.of_walk inLine found whole fun clean => ⟨?_, ?_, clean⟩
    · exact ⟨ch, _, rfl, open', fun star => absurd star other⟩
    · exact ⟨ch :: later ++ (words ++ ([']', '('] ++ target)), ')', by simp, by decide⟩
  · have whole := opening.trans (text.trans (separator.trans (aim.trans closing)))
    refine Inlined.of_walk inLine found whole fun clean => ⟨?_, ?_, clean⟩
    · exact ⟨ch, _, rfl, open', fun star => absurd star other⟩
    · exact ⟨ch :: later ++ (words ++ ([']', '['] ++ target)), ']', by simp, by decide⟩

theorem markdown_spellsInline :
    ∀ p ∈ markdown.tail, p.type.isLine = false → p.SpellsInline := by
  simp only [markdown, List.tail_cons, List.forall_mem_cons]
  refine ⟨fun _ => codeInline_spellsInline, ?_, fun _ => bold_spellsInline,
    fun _ => italic_spellsInline, fun _ => strikethrough_spellsInline, fun _ => link_spellsInline,
    ?_, ?_, ?_, List.forall_mem_nil _⟩
  all_goals rintro ⟨⟩

end Grammar

namespace LineForm

variable {kind : TokenKind} {lead content filler : Text}

/-- Only a bullet could open an inline construct, but a blank follows it. -/
theorem barred (form : LineForm kind lead content filler) {x y : Text} {ch : Char}
    (split : lead = x ++ ch :: y) (opens : opensInline.test ch = true) :
    ch = '*' ∧ ∃ blank later, y = blank :: later ∧ spaceOrTab.test blank = true := by
  have inside : ch ∈ lead := by simp [split]
  -- What is spelled by characters of these sets has no place for the sign.
  have strange : ∀ (set : CharSet) (w : Text), AllIn set w →
      (∀ sign ∈ "`*_~![".toList, set.test sign = false) → ch ∉ w := by
    intro set w all refused within
    have apart : opensInline.test ch = false := all.apart _ refused ch within
    rw [opens] at apart
    cases apart
  have blank := fun (w : Text) (all : AllIn spaceOrTab w) => strange _ w all (by decide)
  cases form with
  | @header hashes gap _ _ _ _ signs _ blanks =>
      exfalso
      rcases List.mem_append.mp inside with marker | space
      · exact strange _ hashes signs (by decide) marker
      · exact blank gap blanks space
  | @blockquote indent _ _ signs blanks _ greedy =>
      exfalso
      rcases List.mem_append.mp inside with margin | marker
      · exact blank indent blanks margin
      · exact strange _ signs.flatten (quoteSigns_allIn greedy.all) (by decide) marker
  | @list indent marker gap _ _ blanks formed wide narrow =>
      rcases formed with ⟨bullet, allowed, rfl⟩ | ⟨digits, closing, _, _, all, allowed, rfl⟩
      · rw [List.append_assoc] at split
        rcases append_cons_cases split.symm with ⟨_, rfl, rfl⟩ | ⟨margin, _⟩ | ⟨_, space⟩
        · obtain ⟨next, later, rfl⟩ := List.exists_cons_of_ne_nil wide
          refine ⟨?_, next, later, rfl, narrow next List.mem_cons_self⟩
          have known : ch = '-' ∨ ch = '*' ∨ ch = '+' := by simpa using allowed
          rcases known with rfl | rfl | rfl
          · exact absurd opens (by decide)
          · rfl
          · exact absurd opens (by decide)
        · exact absurd margin (blank indent blanks)
        · exact absurd space (blank gap narrow)
      · exfalso
        simp only [List.mem_append] at inside
        rcases inside with (margin | number | last) | space
        · exact blank indent blanks margin
        · exact strange _ digits all (by decide) number
        · exact strange (.oneOf ".)") [closing] (by simpa [AllIn] using allowed)
            (by decide) last
        · exact blank gap narrow space
  | @table indent _ _ blanks =>
      exfalso
      rcases List.mem_append.mp inside with margin | bar
      · exact blank indent blanks margin
      · rw [List.mem_singleton.mp bar] at opens
        exact absurd opens (by decide)

theorem unclosing (form : LineForm kind lead content filler) :
    ∀ ch ∈ filler, closesInline.test ch = false := by
  have returned : ∀ {w : Text}, LineReturn w → ∀ ch ∈ w, closesInline.test ch = false := by
    rintro w (rfl | rfl) <;> decide
  cases form with
  | header _ _ _ _ _ _ _ filling => exact filling.apart _ (by decide)
  | blockquote _ _ _ _ ended => exact returned ended
  | list _ _ _ _ _ _ ended => exact returned ended
  | table _ _ filling =>
      exact List.forall_mem_cons.mpr ⟨by decide, filling.apart _ (by decide)⟩

theorem holds_inline (form : LineForm kind lead content filler) {c c₁ c₂ d e f : Cursor} {w : Text}
    (front : c.Walks lead c₁) (text : c₁.Walks content c₂) (tail : c₂.Walks filler d)
    (same : e.text = c.text) (walk : e.Walks w f) (inlined : Inlined w)
    (low : c.offset ≤ e.offset) (high : f.offset ≤ d.offset) :
    c₁.offset ≤ e.offset ∧ f.offset ≤ c₂.offset := by
  constructor
  · by_contra before
    obtain ⟨x, reached⟩ := c.walk_of_offset_le e same.symm low
    obtain ⟨u, split, onward⟩ := reached.continue_of_le front (by omega)
    obtain ⟨ch, y, rfl⟩ := List.exists_cons_of_ne_nil (onward.offset_lt_iff.mp (by omega))
    obtain ⟨first, later, rfl, opens, starred⟩ := inlined.opens
    obtain rfl := Option.some.inj (walk.next?.symm.trans onward.next?)
    obtain ⟨rfl, blank, rest, rfl, allowed⟩ := form.barred split opens
    obtain ⟨next, head, solid⟩ := starred rfl
    -- The character behind the bullet would be a blank and none.
    obtain ⟨others, rfl⟩ := List.head?_eq_some_iff.mp head
    have spelled := walk.rest_eq.symm.trans onward.rest_eq
    simp only [List.cons_append, List.cons.injEq, true_and] at spelled
    rw [spelled.1, allowed] at solid
    cases solid
  · by_contra behind
    have within : f.text = c₂.text := by
      rw [walk.text, same, ← front.text, ← text.text]
    obtain ⟨v, reached⟩ := c₂.walk_of_offset_le f within.symm (by omega)
    obtain ⟨u, rfl, _⟩ := reached.continue_of_le tail high
    have some := reached.offset_lt_iff.mp (by omega)
    obtain ⟨back, ch, rfl, closes⟩ := inlined.closes
    have last := Option.some.inj (walk.previous?.symm.trans (reached.previous?_eq_getLast some))
    have refused := form.unclosing ch (by simp [last, List.getLast_mem])
    rw [refused] at closes
    cases closes

end LineForm

end MarkdownHighlight
