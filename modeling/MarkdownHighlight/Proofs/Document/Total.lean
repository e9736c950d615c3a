import MarkdownHighlight.Proofs.Claim.Joined
import MarkdownHighlight.Proofs.Claim.Visits
import MarkdownHighlight.Proofs.Markup.Faithful

/-!
No text makes the grammar fail. Whatever a pattern matches is a token of the type
that the pattern declares and covers the whole match, so every scan runs to its
end, every text has a tree and every document has markup. Wherever the text is
cut on the way, it is cut between two characters and within its bounds.
-/

namespace MarkdownHighlight

/-- A match that makes a token of the declared type out of all that it covers. -/
structure Match.ReadBy (p : Pattern) (text : Text) (m : Match) : Prop where
  nonempty : m.isEmpty = false
  sliceable : text.whole.Sliceable ⟨m.start.offset, m.stop.offset⟩
  extracted : ∃ t, p.extract m.captures = .ok t ∧ t.type = p.type ∧
    t.span = ⟨m.start.offset, m.stop.offset⟩ ∧ t.source = text.whole.slice t.span

theorem Pattern.Lawful.readBy {p : Pattern} (lawful : p.Lawful) {text : Text} {start : Nat}
    (cut : text.whole.CutAt start) {m : Match} (found : p.matchFrom? text start = some m) :
    start ≤ m.start.offset ∧ m.ReadBy p text := by
  obtain ⟨c, rfl, rfl, same⟩ := p.matchFrom?_of_cutAt cut
  rw [same, search?_of_lawful lawful] at found
  have searched := p.regex.search?_spec c
  rw [found] at searched
  obtain ⟨d, ⟨⟨w, there⟩, _⟩, here⟩ := searched
  obtain ⟨t, reads⟩ := lawful.reads d m here
  have span : t.span = ⟨m.start.offset, m.stop.offset⟩ := by rw [reads.span_eq, reads.start]
  have covered := reads.wellCut.covered
  rw [there.text] at covered
  have moved := reads.moved
  rw [reads.start]
  refine ⟨there.offset_le, ?_, ?_, t, reads.extracted, reads.type_eq, span, ?_⟩
  · simp only [Match.isEmpty, reads.start, beq_eq_false_iff_ne]
    omega
  · rw [← span]
    exact covered.sliceable
  · exact covered.slice.symm

structure Node.Sliceable (text : Text) (n : Node) : Prop where
  source : text.whole.Sliceable n.span
  parts : ∀ t children, n = .token t children → ∀ p ∈ t.parts, t.source.Sliceable p.span

theorem Token.WellCut.sliceable {text : Text} {t : Token} (wellCut : t.WellCut text) (p : Part)
    (member : p ∈ t.parts) : t.source.Sliceable p.span := by
  have bounds := wellCut.tiles.inside p.span (List.mem_map_of_mem member)
  obtain ⟨first, last⟩ := wellCut.seams p member
  constructor
  · exact bounds.2.1
  · exact first.cutAt wellCut.covered bounds.1 (Nat.le_trans bounds.2.1 bounds.2.2)
  · exact last.cutAt wellCut.covered (Nat.le_trans bounds.1 bounds.2.1) bounds.2.2

theorem Node.Sound.sliceable {text : Text} {n : Node} (sound : n.Sound text) :
    n.Sliceable text := by
  constructor
  · exact sound.stretch.1.covered.sliceable
  · rintro t children rfl p member
    exact sound.1.sliceable p member

theorem tokenize_sliceable (text : Text) :
    ∃ nodes, tokenize text = .ok nodes ∧ ∀ n ∈ Node.everyAll nodes, n.Sliceable text := by
  obtain ⟨nodes, made, sound, _, _⟩ :=
    tokenizeWith_sound Grammar.markdown Grammar.markdown_lawful text
  have sounds := Node.Sound.everyAll nodes ((Node.soundAll_iff ..).mpr sound)
  exact ⟨nodes, made, fun n member => (sounds n member).sliceable⟩

/-- Each pattern of the grammar scans the text with the claims of those before it. -/
theorem scan_passable (text : Text) (before after : List Pattern) (p : Pattern)
    (split : Grammar.markdown = before ++ p :: after) :
    ∃ initial, claimAll before text = .ok initial ∧
      ∀ index c, p.Visits text initial index c → p.Passable text index c := by
  have lawful : ∀ q ∈ before ++ p :: after, q.Lawful := split ▸ Grammar.markdown_lawful
  obtain ⟨initial, claimed, cut⟩ := claimAll_cutFrom before
    (fun q member => lawful q (List.mem_append_left _ member)) text
  have own : p.Lawful := lawful p (by simp)
  refine ⟨initial, claimed, fun index c visited => ?_⟩
  obtain ⟨kept, within⟩ := cut.visits own visited
  exact kept.passable own within

namespace Markup

theorem render_ok (text : Text) : ∃ markup, render text = .ok markup := by
  by_cases done : isRendered text = true
  · exact ⟨text, by rw [render, renderWith, if_pos done]⟩
  · obtain ⟨markup, rendered, _⟩ := render_marks text (by simpa using done)
    exact ⟨markup, rendered⟩

theorem renderDocument_ok (n : Narrowing) (text : Text) (viewport? : Option Viewport) :
    ∃ markup, renderDocument n text viewport? = .ok markup := by
  by_cases done : isRendered text = true
  · exact ⟨text, by rw [renderDocument, renderDocumentWith, if_pos done, renderWith, if_pos done]⟩
  · obtain ⟨markup, rendered, _⟩ := renderDocument_marks n text viewport? (by simpa using done)
    exact ⟨markup, rendered⟩

end Markup

/-- No input makes the grammar fail: from every place of a text the match that a
pattern finds is read as a token of its type over the whole match, the scans pass
through places of the text alone, and every text has a tree, markup, and markup
for every viewport, out of pieces and lines that are there to be cut. -/
theorem grammar_never_fails :
    (∀ p ∈ Grammar.markdown, ∀ (text : Text) (start : Nat), text.whole.CutAt start →
      ∀ m, p.matchFrom? text start = some m → start ≤ m.start.offset ∧ m.ReadBy p text) ∧
      ∀ text : Text,
        (∀ before p after, Grammar.markdown = before ++ p :: after →
          ∃ initial, claimAll before text = .ok initial ∧
            ∀ index c, p.Visits text initial index c → p.Passable text index c) ∧
        (∃ nodes, tokenize text = .ok nodes ∧ ∀ n ∈ Node.everyAll nodes, n.Sliceable text) ∧
        (∃ markup, Markup.render text = .ok markup) ∧
        ∀ (n : Narrowing) (viewport? : Option Viewport),
          (∃ markup, Markup.renderDocument n text viewport? = .ok markup) ∧
            (n.select text.lines viewport?).Within text.lines := by
  constructor
  · intro p member text start cut m found
    exact (Grammar.markdown_lawful p member).readBy cut found
  · intro text
    refine ⟨?_, tokenize_sliceable text, Markup.render_ok text, fun n viewport? => ⟨?_, ?_⟩⟩
    · intro before p after split
      exact scan_passable text before after p split
    · exact Markup.renderDocument_ok n text viewport?
    · exact n.select_within text.lines viewport? text.lines_ne_nil

theorem grammar_never_fails_in_code :
    let text : Text := "é`*a*`*b*".toList
    (text.whole.CutAt 2 ∧ ∃ m, Grammar.italic.matchFrom? text 2 = some m ∧
        2 ≤ m.start.offset ∧ m.ReadBy Grammar.italic text) ∧
      ∃ initial m, claimAll (Grammar.markdown.take 4) text = .ok initial ∧
        Grammar.italic.search? (.atStart text) = some m ∧
        initial.codeEnd? m.start.offset = some 7 ∧
        text.whole.Sliceable ⟨m.start.offset, 7⟩ := by
  intro text
  have cut : text.whole.CutAt 2 := ⟨['é'], "`*a*`*b*".toList, rfl, rfl⟩
  have italic : Grammar.italic ∈ Grammar.markdown := by simp [Grammar.markdown]
  obtain ⟨m, found⟩ : ∃ m, Grammar.italic.matchFrom? text 2 = some m :=
    Option.isSome_iff_exists.mp (by decide +kernel)
  have first := grammar_never_fails.1 Grammar.italic italic text 2 cut m found
  obtain ⟨initial, claimed, passable⟩ := (grammar_never_fails.2 text).1
    (Grammar.markdown.take 4) Grammar.italic (Grammar.markdown.drop 5) rfl
  obtain ⟨n, searched, place⟩ : ∃ n, Grammar.italic.search? (.atStart text) = some n ∧
      n.start.offset = 3 := Option.map_eq_some_iff.mp (by decide +kernel)
  have code : (claimAll (Grammar.markdown.take 4) text).toOption.bind (·.codeEnd? 3) = some 7 := by
    decide +kernel
  rw [claimed, ← place] at code
  exact ⟨⟨cut, m, found, first⟩, initial, n, claimed, searched, code,
    (passable initial _ .start).resumes n searched 7 code⟩

end MarkdownHighlight
