import MarkdownHighlight.Proofs.Grammar.Cuts
import MarkdownHighlight.Proofs.Grammar.Forms

/-!
Every match of the grammar makes a token. The groups that an extraction asks
for have taken part and stand in order, so no match is refused; the token covers
the whole match, which is not empty, and is well cut in the text.
-/

namespace MarkdownHighlight

theorem Regex.matchAt?_eq_some {r : Regex} {c : Cursor} {m : Match}
    (found : r.matchAt? c = some m) :
    ∃ d groups, (r.outcomes ⟨c, []⟩).head? = some ⟨d, groups⟩ ∧ m = ⟨c, d, groups⟩ := by
  rw [Regex.matchAt?_eq_head?] at found
  obtain ⟨q, first, rfl⟩ := Option.map_eq_some_iff.mp found
  exact ⟨q.cursor, q.groups, first, rfl⟩

namespace Pattern

structure Reads (p : Pattern) (c : Cursor) (m : Match) (t : Token) : Prop where
  start : m.start = c
  moved : c.offset < m.stop.offset
  walk : ∃ w, c.Walks w m.stop
  extracted : p.extract m.captures = .ok t
  source : t.source = c.excerptTo m.stop
  wellCut : t.WellCut c.text

structure Lawful (p : Pattern) : Prop where
  backtracking : p.automaton? = none
  reads : ∀ c m, p.regex.matchAt? c = some m → ∃ t, p.Reads c m t

/-- A match is read as a token of this kind, with its content in this place. -/
def ReadsAs (p : Pattern) (c : Cursor) (m : Match) (kind : TokenKind) (content : Span) : Prop :=
  ∃ t, p.Reads c m t ∧ t.kind = kind ∧ t.contentSpan? = some content

theorem ReadsAs.reads {p : Pattern} {c : Cursor} {m : Match} {kind : TokenKind} {content : Span}
    (read : p.ReadsAs c m kind content) : ∃ t, p.Reads c m t := by
  obtain ⟨t, reads, _⟩ := read
  exact ⟨t, reads⟩

/-- A match is read when its extraction does nothing but cut along cursors of
the text, the last cut at the end of the match. -/
theorem ReadsAs.of_stops (p : Pattern) (c d : Cursor) (groups : List (Nat × Cursor × Cursor))
    (name : String) (kind : TokenKind) (before after : Stops) (inner : Cursor) (tail : Role)
    (cuts : List Cut)
    (extracted : p.extraction (Match.captures ⟨c, d, groups⟩) =
      (Part.tile name (c.excerptTo d).span cuts tail).map (⟨kind, c.excerptTo d, ·⟩))
    (typed : kind.type = p.type)
    (places : cuts = Stops.cuts (before ++ (.content, inner) :: after))
    (along : Stops.Along d c (before ++ (.content, inner) :: (after ++ [(tail, d)])))
    (moved : c.offset < d.offset)
    (seamed : c.seam = true ∧
      ∀ stop ∈ before ++ (.content, inner) :: (after ++ [(tail, d)]), stop.2.seam = true)
    (single : ∀ stop ∈ before ++ (after ++ [(tail, d)]), stop.1 ≠ .content)
    (known : ∀ stop ∈ before ++ (.content, inner) :: (after ++ [(tail, d)]), stop.1.Known) :
    p.ReadsAs c ⟨c, d, groups⟩ kind
      ⟨Part.lastStop c.offset (Stops.cuts before), inner.offset⟩ := by
  obtain ⟨w, walk⟩ := along.walk
  have shape : before ++ (.content, inner) :: (after ++ [(tail, d)]) =
      before ++ (.content, inner) :: after ++ [(tail, d)] := by simp
  have tiled := Stops.tile_of_along name c d _ tail (shape ▸ along)
  rw [places, walk.excerptTo_span, tiled, ← shape] at extracted
  refine ⟨⟨kind, c.excerptTo d, Part.ofCuts c.offset
      (Stops.cuts (before ++ (.content, inner) :: (after ++ [(tail, d)])))⟩,
    ⟨rfl, moved, ⟨w, walk⟩, ?_, rfl,
      Stops.wellCut_of_along _ c d before (after ++ [(tail, d)]) inner along moved rfl rfl seamed
        single known⟩, rfl, Stops.contentSpan?_of_parts _ _ _ _ _ single rfl⟩
  rw [Pattern.extract, extracted]
  exact if_pos typed

end Pattern

namespace Grammar

open Regex

theorem strange_of_spaceOrTab (w : Text) (all : AllIn spaceOrTab w) : Markup.Strange w :=
  forall_of_oneOf " \t" (by decide) all

theorem strange_of_lineFiller (w : Text) (all : AllIn lineFiller w) : Markup.Strange w :=
  forall_of_oneOf " \t\r" (by decide) all

theorem strange_of_lineReturn (w : Text) (ended : LineReturn w) : Markup.Strange w := by
  rcases ended with rfl | rfl <;> decide

theorem codeInline_readsAs {c c₁ c₂ d : Cursor} {w : Text} (opening : c.Walks ['`'] c₁)
    (content : c₁.Walks w c₂) (closing : c₂.Walks ['`'] d) :
    codeInline.ReadsAs c ⟨c, d, [(3, c₂, d), (2, c₁, c₂), (1, c, c₁)]⟩ (.codeInline w)
      ⟨c₁.offset, c₂.offset⟩ := by
  have whole := opening.trans (content.trans closing)
  have seam := opening.seam_before (by simp) (by decide)
  have seam₁ := opening.seam_after (by simp) (by decide)
  have seam₂ := closing.seam_before (by simp) (by decide)
  have seam' := closing.seam_after (by simp) (by decide)
  have read := Pattern.ReadsAs.of_stops codeInline c d [(3, c₂, d), (2, c₁, c₂), (1, c, c₁)]
    "code_inline" (.codeInline (c₁.excerptTo c₂).text) [(.marker, c₁)] [] c₂ .marker
    [⟨.marker, (c₁.excerptTo c₂).start⟩, ⟨.content, (c₁.excerptTo c₂).stop⟩] rfl rfl
    (by simp [Stops.cuts, content.excerptTo_stop])
    ⟨⟨_, opening⟩, ⟨_, content⟩, ⟨_, closing⟩, rfl⟩ (whole.offset_lt_iff.mpr (by simp))
    (by simp [seam, seam₁, seam₂, seam']) (by simp) (by simp [Role.Known])
  rwa [content.excerptTo] at read

theorem codeInline_lawful : codeInline.Lawful where
  backtracking := rfl
  reads := by
    intro c m found
    obtain ⟨d, groups, first, rfl⟩ := matchAt?_eq_some found
    obtain ⟨c₁, w, c₂, opening, some, content, all, closing, same⟩ :=
      codeInline_form (List.mem_of_mem_head? first)
    simp only at closing same
    subst same
    exact (codeInline_readsAs opening content closing).reads

section Lines

variable {c c₁ c₂ c₃ c₄ d : Cursor} {indent content filler : Text}

theorem header_readsAs {hashes gap : Text} (atStart : Assertion.lineStart.holds c = true)
    (some : hashes ≠ []) (marker : c.Walks hashes c₁) (wide : gap ≠ [])
    (blanks : AllIn spaceOrTab gap) (space : c₁.Walks gap c₂) (text : c₂.Walks content c₃)
    (filling : AllIn lineFiller filler) (tail : c₃.Walks filler d)
    (atEnd : Assertion.lineEnd.holds d = true) :
    header.ReadsAs c ⟨c, d, [(2, c₂, c₃), (1, c, c₁)]⟩
      (.header (Extraction.headerLevel hashes) content) ⟨c₂.offset, c₃.offset⟩ := by
  have whole := marker.trans (space.trans (text.trans tail))
  have strange := strange_of_spaceOrTab gap blanks
  have seam := c.seam_of_lineStart atStart
  have seam₁ := space.seam_before wide strange
  have seam₂ := space.seam_after wide strange
  have seam' := d.seam_of_lineEnd atEnd
  have seam₃ := tail.seam_left (strange_of_lineFiller filler filling) seam'
  have read := Pattern.ReadsAs.of_stops header c d [(2, c₂, c₃), (1, c, c₁)] "header"
    (.header (Extraction.headerLevel (c.excerptTo c₁).text) (c₂.excerptTo c₃).text)
    [(.marker, c₁), (.plain, c₂)] [] c₃ .plain
    [⟨.marker, (c.excerptTo c₁).stop⟩, ⟨.plain, (c₂.excerptTo c₃).start⟩,
      ⟨.content, (c₂.excerptTo c₃).stop⟩] rfl rfl
    (by simp [Stops.cuts, marker.excerptTo_stop, text.excerptTo_stop])
    ⟨⟨_, marker⟩, ⟨_, space⟩, ⟨_, text⟩, ⟨_, tail⟩, rfl⟩
    (whole.offset_lt_iff.mpr (by simp [some]))
    (by simp [seam, seam₁, seam₂, seam₃, seam']) (by simp) (by simp [Role.Known])
  rwa [marker.excerptTo, text.excerptTo] at read

theorem header_lawful : header.Lawful where
  backtracking := rfl
  reads := by
    intro c m found
    obtain ⟨d, groups, first, rfl⟩ := matchAt?_eq_some found
    obtain ⟨hashes, c₁, gap, c₂, content, c₃, filler, atStart, some, _, _, marker, wide, blanks,
      space, _, text, filling, tail, atEnd, same⟩ := header_form (List.mem_of_mem_head? first)
    simp only at tail atEnd same
    subst same
    exact (header_readsAs atStart some marker wide blanks space text filling tail atEnd).reads

section Emphasis

variable {c : Cursor} {q : Progress} {p : Pattern} {kind : Text → Text → TokenKind} {marker : Text}
  {ends middle : CharSet}

def MarkedAs (p : Pattern) (kind : Text → Text → TokenKind) (marker : Text) (ends middle : CharSet)
    (c : Cursor) (q : Progress) : Prop :=
  ∃ w content, c.Walks (marker ++ (w ++ marker)) q.cursor ∧ Between ends middle w ∧
    p.ReadsAs c ⟨c, q.cursor, q.groups⟩ (kind w marker) content

theorem MarkedAs.reads (marked : MarkedAs p kind marker ends middle c q) :
    ∃ t, p.Reads c ⟨c, q.cursor, q.groups⟩ t := by
  obtain ⟨_, _, _, _, read⟩ := marked
  exact read.reads

theorem Delimited.markedAs {n : Nat} (form : Delimited marker n ends middle c q) (name : String)
    (openings contents : List Nat) (same : p.extraction = .delimited name openings contents kind)
    (typed : ∀ content marker, (kind content marker).type = p.type)
    (some : marker ≠ []) (strange : Markup.Strange marker)
    (opened : ∀ c c₁ c₂ d, (Match.captures ⟨c, d, [(n + 2, c₂, d), (n + 1, c₁, c₂),
      (n, c, c₁)]⟩).firstOf? openings = .some (c.excerptTo c₁))
    (filled : ∀ c c₁ c₂ d, (Match.captures ⟨c, d, [(n + 2, c₂, d), (n + 1, c₁, c₂),
      (n, c, c₁)]⟩).firstOf? contents = .some (c₁.excerptTo c₂)) :
    MarkedAs p kind marker ends middle c q := by
  obtain ⟨c₁, w, c₂, opening, between, content, closing, groups⟩ := form
  have whole := opening.trans (content.trans closing)
  have seam := opening.seam_before some strange
  have seam₁ := opening.seam_after some strange
  have seam₂ := closing.seam_before some strange
  have seam' := closing.seam_after some strange
  refine ⟨w, ⟨c₁.offset, c₂.offset⟩, whole, between, ?_⟩
  have read := Pattern.ReadsAs.of_stops p c q.cursor q.groups name
    (kind (c₁.excerptTo c₂).text (c.excerptTo c₁).text) [(.marker, c₁)] [] c₂ .marker
    [⟨.marker, (c.excerptTo c₁).stop⟩, ⟨.content, (c₁.excerptTo c₂).stop⟩]
    (by
      rw [groups]
      simp only [same, Extraction.delimited, Captures.requireFirst, opened, filled]
      rfl)
    (typed _ _) (by simp [Stops.cuts, opening.excerptTo_stop, content.excerptTo_stop])
    ⟨⟨_, opening⟩, ⟨_, content⟩, ⟨_, closing⟩, rfl⟩ (whole.offset_lt_iff.mpr (by simp [some]))
    (by simp [seam, seam₁, seam₂, seam']) (by simp) (by simp [Role.Known])
  rwa [opening.excerptTo, content.excerptTo] at read

theorem bold_markedAs (found : q ∈ bold.regex.outcomes ⟨c, []⟩) :
    MarkedAs bold .bold ['*', '*'] (edge '*') notNewline c q ∨
      (MarkedAs bold .bold ['_', '_'] (edge '_') notNewline c q ∧
        (Assertion.wordBoundary .word).holds c = true ∧
        (Assertion.wordBoundary .word).holds q.cursor = true) := by
  refine (bold_form found).imp (fun form => ?_) fun ⟨form, apart⟩ => ⟨?_, apart⟩
  all_goals
    exact form.markedAs "bold" [1, 4] [2, 5] rfl (fun _ _ => rfl) (List.cons_ne_nil _ _)
      (by decide) (fun _ _ _ _ => rfl) fun _ _ _ _ => rfl

theorem italic_markedAs (found : q ∈ italic.regex.outcomes ⟨c, []⟩) :
    MarkedAs italic .italic ['*'] (edge '*') (.complement (.oneOf "*\n")) c q ∨
      (MarkedAs italic .italic ['_'] (edge '_') (.complement (.oneOf "_\n")) c q ∧
        (Assertion.wordBoundary .word).holds c = true ∧
        (Assertion.wordBoundary .word).holds q.cursor = true) := by
  refine (italic_form found).imp (fun form => ?_) fun ⟨form, apart⟩ => ⟨?_, apart⟩
  all_goals
    exact form.markedAs "italic" [1, 4] [2, 5] rfl (fun _ _ => rfl) (List.cons_ne_nil _ _)
      (by decide) (fun _ _ _ _ => rfl) fun _ _ _ _ => rfl

theorem strikethrough_markedAs (found : q ∈ strikethrough.regex.outcomes ⟨c, []⟩) :
    MarkedAs strikethrough .strikethrough ['~', '~'] (edge '~') (.complement (.oneOf "~\n"))
      c q :=
  (strikethrough_form found).markedAs "strikethrough" [1] [2] rfl (fun _ _ => rfl)
    (List.cons_ne_nil _ _) (by decide) (fun _ _ _ _ => rfl) fun _ _ _ _ => rfl

end Emphasis

theorem bold_lawful : bold.Lawful where
  backtracking := rfl
  reads := by
    intro c m found
    obtain ⟨d, groups, first, rfl⟩ := matchAt?_eq_some found
    rcases bold_markedAs (List.mem_of_mem_head? first) with marked | ⟨marked, _⟩
    · exact marked.reads
    · exact marked.reads

theorem italic_lawful : italic.Lawful where
  backtracking := rfl
  reads := by
    intro c m found
    obtain ⟨d, groups, first, rfl⟩ := matchAt?_eq_some found
    rcases italic_markedAs (List.mem_of_mem_head? first) with marked | ⟨marked, _⟩
    · exact marked.reads
    · exact marked.reads

theorem strikethrough_lawful : strikethrough.Lawful where
  backtracking := rfl
  reads := by
    intro c m found
    obtain ⟨d, groups, first, rfl⟩ := matchAt?_eq_some found
    exact (strikethrough_markedAs (List.mem_of_mem_head? first)).reads

section Link

variable {c c₁ c₂ c₃ c₄ d : Cursor} {sign words target : Text}

/-- An address and a label are cut at the same places; only the name of the part differs. -/
theorem link_readsAs (spelled : LinkOpening sign) (opening : c.Walks sign c₁)
    (text : c₁.Walks words c₂) (aim : c₃.Walks target c₄) :
    (c₂.Walks [']', '('] c₃ → c₄.Walks [')'] d →
        link.ReadsAs c ⟨c, d, [(5, c₄, d), (4, c₃, c₄), (3, c₂, c₃), (2, c₁, c₂), (1, c, c₁)]⟩
          (.link words (.url target) (sign.head? == some '!')) ⟨c₁.offset, c₂.offset⟩) ∧
      (c₂.Walks [']', '['] c₃ → c₄.Walks [']'] d →
        link.ReadsAs c ⟨c, d, [(8, c₄, d), (7, c₃, c₄), (6, c₂, c₃), (2, c₁, c₂), (1, c, c₁)]⟩
          (.link words (.reference target) (sign.head? == some '!')) ⟨c₁.offset, c₂.offset⟩) := by
  have nonempty : sign ≠ [] := by rcases spelled with rfl | rfl <;> simp
  have strange : Markup.Strange sign := by rcases spelled with rfl | rfl <;> decide
  have seam := opening.seam_before nonempty strange
  have seam₁ := opening.seam_after nonempty strange
  constructor
  all_goals
    intro separator closing
    have whole := opening.trans (text.trans (separator.trans (aim.trans closing)))
    have seam₂ := separator.seam_before (by simp) (by decide)
    have seam₃ := separator.seam_after (by simp) (by decide)
    have seam₄ := closing.seam_before (by simp) (by decide)
    have seam' := closing.seam_after (by simp) (by decide)
  · have read := Pattern.ReadsAs.of_stops link c d
      [(5, c₄, d), (4, c₃, c₄), (3, c₂, c₃), (2, c₁, c₂), (1, c, c₁)] "link"
      (.link (c₁.excerptTo c₂).text (.url (c₃.excerptTo c₄).text)
        ((c.excerptTo c₁).text.head? == some '!'))
      [(.marker, c₁)] [(.marker, c₃), (.metadata "url", c₄)] c₂ .marker
      [⟨.marker, (c.excerptTo c₁).stop⟩, ⟨.content, (c₁.excerptTo c₂).stop⟩,
        ⟨.marker, (c₂.excerptTo c₃).stop⟩, ⟨.metadata "url", (c₃.excerptTo c₄).stop⟩] rfl rfl
      (by simp [Stops.cuts, opening.excerptTo_stop, text.excerptTo_stop,
        separator.excerptTo_stop, aim.excerptTo_stop])
      ⟨⟨_, opening⟩, ⟨_, text⟩, ⟨_, separator⟩, ⟨_, aim⟩, ⟨_, closing⟩, rfl⟩
      (whole.offset_lt_iff.mpr (by simp [nonempty]))
      (by simp [seam, seam₁, seam₂, seam₃, seam₄, seam']) (by simp) (by simp [Role.Known])
    rwa [opening.excerptTo, text.excerptTo, aim.excerptTo] at read
  · have read := Pattern.ReadsAs.of_stops link c d
      [(8, c₄, d), (7, c₃, c₄), (6, c₂, c₃), (2, c₁, c₂), (1, c, c₁)] "link"
      (.link (c₁.excerptTo c₂).text (.reference (c₃.excerptTo c₄).text)
        ((c.excerptTo c₁).text.head? == some '!'))
      [(.marker, c₁)] [(.marker, c₃), (.metadata "ref", c₄)] c₂ .marker
      [⟨.marker, (c.excerptTo c₁).stop⟩, ⟨.content, (c₁.excerptTo c₂).stop⟩,
        ⟨.marker, (c₂.excerptTo c₃).stop⟩, ⟨.metadata "ref", (c₃.excerptTo c₄).stop⟩] rfl rfl
      (by simp [Stops.cuts, opening.excerptTo_stop, text.excerptTo_stop,
        separator.excerptTo_stop, aim.excerptTo_stop])
      ⟨⟨_, opening⟩, ⟨_, text⟩, ⟨_, separator⟩, ⟨_, aim⟩, ⟨_, closing⟩, rfl⟩
      (whole.offset_lt_iff.mpr (by simp [nonempty]))
      (by simp [seam, seam₁, seam₂, seam₃, seam₄, seam']) (by simp) (by simp [Role.Known])
    rwa [opening.excerptTo, text.excerptTo, aim.excerptTo] at read

end Link

theorem link_lawful : link.Lawful where
  backtracking := rfl
  reads := by
    intro c m found
    obtain ⟨d, groups, first, rfl⟩ := matchAt?_eq_some found
    obtain ⟨sign, c₁, words, c₂, c₃, target, c₄, spelled, opening, _, text, aim, rest⟩ :=
      link_form (List.mem_of_mem_head? first)
    rcases rest with ⟨separator, closing, _, same⟩ | ⟨separator, closing, _, same⟩
    all_goals
      simp only at closing same
      subst same
    · exact ((link_readsAs spelled opening text aim).1 separator closing).reads
    · exact ((link_readsAs spelled opening text aim).2 separator closing).reads

theorem blockquote_readsAs {signs : List Text} (atStart : Assertion.lineStart.holds c = true)
    (margin : c.Walks indent c₁) (some : signs ≠ []) (all : ∀ w ∈ signs, QuoteSign w)
    (marker : c₁.Walks signs.flatten c₂) (text : c₂.Walks content c₃) (ended : LineReturn filler)
    (tail : c₃.Walks filler d) (atEnd : Assertion.lineEnd.holds d = true) :
    blockquote.ReadsAs c ⟨c, d, [(3, c₂, c₃), (2, c₁, c₂), (1, c, c₁)]⟩
      (.blockquote (signs.flatten.count '>') (Extraction.indentWidth indent) content)
      ⟨c₂.offset, c₃.offset⟩ := by
  have whole := margin.trans (marker.trans (text.trans tail))
  have wide := quoteSigns_ne_nil some all
  have strange : Markup.Strange signs.flatten :=
    forall_of_oneOf "> \t" (by decide) (quoteSigns_allIn all)
  have seam := c.seam_of_lineStart atStart
  have seam₁ := marker.seam_before wide strange
  have seam₂ := marker.seam_after wide strange
  have seam' := d.seam_of_lineEnd atEnd
  have seam₃ := tail.seam_left (strange_of_lineReturn filler ended) seam'
  have read := Pattern.ReadsAs.of_stops blockquote c d [(3, c₂, c₃), (2, c₁, c₂), (1, c, c₁)]
    "blockquote"
    (.blockquote ((c₁.excerptTo c₂).text.count '>') (Extraction.indentWidth (c.excerptTo c₁).text)
      (c₂.excerptTo c₃).text)
    [(.plain, c₁), (.marker, c₂)] [] c₃ .plain
    [⟨.plain, (c.excerptTo c₁).stop⟩, ⟨.marker, (c₁.excerptTo c₂).stop⟩,
      ⟨.content, (c₂.excerptTo c₃).stop⟩] rfl rfl
    (by simp [Stops.cuts, margin.excerptTo_stop, marker.excerptTo_stop, text.excerptTo_stop])
    ⟨⟨_, margin⟩, ⟨_, marker⟩, ⟨_, text⟩, ⟨_, tail⟩, rfl⟩
    (whole.offset_lt_iff.mpr (by simp [wide]))
    (by simp [seam, seam₁, seam₂, seam₃, seam']) (by simp) (by simp [Role.Known])
  rwa [margin.excerptTo, marker.excerptTo, text.excerptTo] at read

theorem blockquote_lawful : blockquote.Lawful where
  backtracking := rfl
  reads := by
    intro c m found
    obtain ⟨d, groups, first, rfl⟩ := matchAt?_eq_some found
    obtain ⟨indent, c₁, signs, c₂, content, c₃, filler, atStart, blanks, margin, some, all, marker,
      _, text, ended, tail, atEnd, same⟩ := blockquote_form (List.mem_of_mem_head? first)
    simp only at tail atEnd same
    subst same
    exact (blockquote_readsAs atStart margin some all marker text ended tail atEnd).reads

theorem list_readsAs {sign gap : Text} (atStart : Assertion.lineStart.holds c = true)
    (blanks : AllIn spaceOrTab indent) (margin : c.Walks indent c₁) (marker : c₁.Walks sign c₂)
    (wide : gap ≠ []) (narrow : AllIn spaceOrTab gap) (space : c₂.Walks gap c₃)
    (text : c₃.Walks content c₄) (ended : LineReturn filler) (tail : c₄.Walks filler d)
    (atEnd : Assertion.lineEnd.holds d = true) :
    list.ReadsAs c ⟨c, d, [(4, c₃, c₄), (3, c₂, c₃), (2, c₁, c₂), (1, c, c₁)]⟩
      (.list (Extraction.indentWidth indent / 2) sign content) ⟨c₃.offset, c₄.offset⟩ := by
  have whole := margin.trans (marker.trans (space.trans (text.trans tail)))
  have strange := strange_of_spaceOrTab gap narrow
  have seam := c.seam_of_lineStart atStart
  have seam₁ := margin.seam_right (strange_of_spaceOrTab indent blanks) seam
  have seam₂ := space.seam_before wide strange
  have seam₃ := space.seam_after wide strange
  have seam' := d.seam_of_lineEnd atEnd
  have seam₄ := tail.seam_left (strange_of_lineReturn filler ended) seam'
  have read := Pattern.ReadsAs.of_stops list c d
    [(4, c₃, c₄), (3, c₂, c₃), (2, c₁, c₂), (1, c, c₁)] "list"
    (.list (Extraction.indentWidth (c.excerptTo c₁).text / 2) (c₁.excerptTo c₂).text
      (c₃.excerptTo c₄).text)
    [(.plain, c₁), (.marker, c₂), (.plain, c₃)] [] c₄ .plain
    [⟨.plain, (c.excerptTo c₁).stop⟩, ⟨.marker, (c₁.excerptTo c₂).stop⟩,
      ⟨.plain, (c₂.excerptTo c₃).stop⟩, ⟨.content, (c₃.excerptTo c₄).stop⟩] rfl rfl
    (by simp [Stops.cuts, margin.excerptTo_stop, marker.excerptTo_stop, space.excerptTo_stop,
      text.excerptTo_stop])
    ⟨⟨_, margin⟩, ⟨_, marker⟩, ⟨_, space⟩, ⟨_, text⟩, ⟨_, tail⟩, rfl⟩
    (whole.offset_lt_iff.mpr (by simp [wide]))
    (by simp [seam, seam₁, seam₂, seam₃, seam₄, seam']) (by simp) (by simp [Role.Known])
  rwa [margin.excerptTo, marker.excerptTo, text.excerptTo] at read

theorem list_lawful : list.Lawful where
  backtracking := rfl
  reads := by
    intro c m found
    obtain ⟨d, groups, first, rfl⟩ := matchAt?_eq_some found
    obtain ⟨indent, c₁, sign, c₂, gap, c₃, content, c₄, filler, atStart, blanks, margin, _, marker,
      wide, narrow, space, _, text, ended, tail, atEnd, same⟩ :=
      list_form (List.mem_of_mem_head? first)
    simp only at tail atEnd same
    subst same
    exact (list_readsAs atStart blanks margin marker wide narrow space text ended tail atEnd).reads

theorem table_readsAs (atStart : Assertion.lineStart.holds c = true) (margin : c.Walks indent c₁)
    (opening : c₁.Walks ['|'] c₂) (text : c₂.Walks content c₃) (closing : c₃.Walks ['|'] c₄)
    (tail : c₄.Walks filler d) (atEnd : Assertion.lineEnd.holds d = true) :
    table.ReadsAs c ⟨c, d, [(4, c₃, c₄), (3, c₂, c₃), (2, c₁, c₂), (1, c, c₁)]⟩
      (.table content) ⟨c₂.offset, c₃.offset⟩ := by
  have whole := margin.trans (opening.trans (text.trans (closing.trans tail)))
  have seam := c.seam_of_lineStart atStart
  have seam₁ := opening.seam_before (by simp) (by decide)
  have seam₂ := opening.seam_after (by simp) (by decide)
  have seam₃ := closing.seam_before (by simp) (by decide)
  have seam₄ := closing.seam_after (by simp) (by decide)
  have seam' := d.seam_of_lineEnd atEnd
  have read := Pattern.ReadsAs.of_stops table c d
    [(4, c₃, c₄), (3, c₂, c₃), (2, c₁, c₂), (1, c, c₁)] "table" (.table (c₂.excerptTo c₃).text)
    [(.plain, c₁), (.marker, c₂)] [(.marker, c₄)] c₃ .plain
    [⟨.plain, (c.excerptTo c₁).stop⟩, ⟨.marker, (c₁.excerptTo c₂).stop⟩,
      ⟨.content, (c₂.excerptTo c₃).stop⟩, ⟨.marker, (c₃.excerptTo c₄).stop⟩] rfl rfl
    (by simp [Stops.cuts, margin.excerptTo_stop, opening.excerptTo_stop, text.excerptTo_stop,
      closing.excerptTo_stop])
    ⟨⟨_, margin⟩, ⟨_, opening⟩, ⟨_, text⟩, ⟨_, closing⟩, ⟨_, tail⟩, rfl⟩
    (whole.offset_lt_iff.mpr (by simp))
    (by simp [seam, seam₁, seam₂, seam₃, seam₄, seam']) (by simp) (by simp [Role.Known])
  rwa [text.excerptTo] at read

theorem table_lawful : table.Lawful where
  backtracking := rfl
  reads := by
    intro c m found
    obtain ⟨d, groups, first, rfl⟩ := matchAt?_eq_some found
    obtain ⟨indent, c₁, c₂, content, c₃, c₄, filler, atStart, blanks, margin, opening, _, text,
      closing, filling, tail, atEnd, same⟩ := table_form (List.mem_of_mem_head? first)
    simp only at tail atEnd same
    subst same
    exact (table_readsAs atStart margin opening text closing tail atEnd).reads

end Lines

theorem languageSet_of_continues (ch : Char) (continues : Markup.continuesReference ch = true) :
    languageSet.test ch = true := by
  -- What may stand in a reference lies in the first plane of the codes, away from blanks.
  have code : ch.toNat = 35 ∨ ch.toNat = 59 ∨ (65 ≤ ch.toNat ∧ ch.toNat ≤ 90) ∨
      (97 ≤ ch.toNat ∧ ch.toNat ≤ 122) ∨ (48 ≤ ch.toNat ∧ ch.toNat ≤ 57) := by
    rw [Markup.continuesReference, Bool.or_eq_true, Bool.or_eq_true, beq_iff_eq, beq_iff_eq]
      at continues
    rcases continues with (rfl | rfl) | letter
    · exact Or.inl rfl
    · exact Or.inr (Or.inl rfl)
    · exact Or.inr (Or.inr ((Markup.isAlphanum_iff ch).mp letter))
  have tick : ch ≠ '`' := by
    rintro rfl
    revert code
    decide
  have space : (ch == ' ') = false := by
    rw [beq_eq_false_iff_ne]
    rintro rfl
    revert code
    decide
  have control : (decide (0x09 ≤ ch.toNat) && decide (ch.toNat ≤ 0x0d)) = false := by
    rw [Bool.and_eq_false_iff, decide_eq_false_iff_not, decide_eq_false_iff_not]
    omega
  have blank : Text.isBlank ch = false := by
    rw [Text.isBlank, if_pos (by omega), space, control]
    rfl
  simp [languageSet, CharSet.ofItems, CharSet.test, blank, tick]

theorem codeBlock_lawful : codeBlock.Lawful where
  backtracking := rfl
  reads := by
    intro c m found
    obtain ⟨d, groups, first, rfl⟩ := matchAt?_eq_some found
    obtain ⟨c₁, spoken, c₂, atStart, opening, _, language, greedy, info, c₃, c₄, c₅, filler, _,
      line, closing, filling, tail, atEnd, bodied⟩ := codeBlock_form first
    simp only at tail atEnd bodied
    obtain ⟨ch, later, head⟩ := List.exists_cons_of_ne_nil (l := info ++ ['\n']) (by simp)
    -- The language was taken as far as it goes, so no reference reaches over its end.
    have stranger : Markup.continuesReference ch = false := by
      by_contra continues
      have next := greedy ch (by rw [head] at line; exact line.next?)
      simp [languageSet_of_continues ch (by simpa using continues)] at next
    have seam := c.seam_of_lineStart atStart
    have seam₁ := opening.seam_after (by simp [fence]) (by decide)
    have seam₂ := (head ▸ line).seam_of_next stranger
    have seam₃ := line.seam_of_previous (by decide)
    have seam₄ := closing.seam_before (by simp [fence]) (by decide)
    have seam' := d.seam_of_lineEnd atEnd
    rcases bodied with ⟨body, e, read, newline, same⟩ | ⟨rfl, same⟩
    · subst same
      have whole := opening.trans (language.trans (line.trans (read.trans (newline.trans
        (closing.trans tail)))))
      have seamₑ := newline.seam_before (by simp) (by decide)
      exact (Pattern.ReadsAs.of_stops codeBlock c d _ "code_block"
        (.codeBlock (if (c₁.excerptTo c₂).isEmpty then none else some (c₁.excerptTo c₂).text)
          (c₃.excerptTo e).text)
        [(.marker, c₁), (.metadata "language", c₂), (.plain, c₃)] [(.plain, c₄)] e .marker
        [⟨.marker, (c.excerptTo c₁).stop⟩, ⟨.metadata "language", (c₁.excerptTo c₂).stop⟩,
          ⟨.plain, (c₂.excerptTo c₃).stop⟩, ⟨.content, (c₃.excerptTo e).stop⟩,
          ⟨.plain, (c₄.excerptTo c₅).start⟩] rfl rfl
        (by simp [Stops.cuts, opening.excerptTo_stop, language.excerptTo_stop, line.excerptTo_stop,
          read.excerptTo_stop])
        ⟨⟨_, opening⟩, ⟨_, language⟩, ⟨_, line⟩, ⟨_, read⟩, ⟨_, newline⟩,
          ⟨_, closing.trans tail⟩, rfl⟩
        (whole.offset_lt_iff.mpr (by simp [fence]))
        (by simp [seam, seam₁, seam₂, seam₃, seam₄, seamₑ, seam']) (by simp)
        (by simp [Role.Known])).reads
    · subst same
      have whole := opening.trans (language.trans (line.trans (closing.trans tail)))
      exact (Pattern.ReadsAs.of_stops codeBlock c d _ "code_block"
        (.codeBlock (if (c₁.excerptTo c₂).isEmpty then none else some (c₁.excerptTo c₂).text) [])
        [(.marker, c₁), (.metadata "language", c₂), (.plain, c₄)] [(.plain, c₄)] c₄ .marker
        [⟨.marker, (c.excerptTo c₁).stop⟩, ⟨.metadata "language", (c₁.excerptTo c₂).stop⟩,
          ⟨.plain, (c₂.excerptTo c₄).stop⟩, ⟨.content, (c₂.excerptTo c₄).stop⟩,
          ⟨.plain, (c₄.excerptTo c₅).start⟩] rfl rfl
        (by simp [Stops.cuts, opening.excerptTo_stop, language.excerptTo_stop, line.excerptTo_stop])
        ⟨⟨_, opening⟩, ⟨_, language⟩, ⟨_, line⟩, ⟨_, .refl _⟩, ⟨_, .refl _⟩,
          ⟨_, closing.trans tail⟩, rfl⟩
        (whole.offset_lt_iff.mpr (by simp [fence]))
        (by simp [seam, seam₁, seam₂, seam₄, seam']) (by simp) (by simp [Role.Known])).reads

theorem markdown_lawful : ∀ p ∈ markdown, p.Lawful := by
  simp only [markdown, List.forall_mem_cons]
  exact ⟨codeBlock_lawful, codeInline_lawful, header_lawful, bold_lawful, italic_lawful,
    strikethrough_lawful, link_lawful, blockquote_lawful, list_lawful, table_lawful,
    List.forall_mem_nil _⟩

end Grammar

end MarkdownHighlight
