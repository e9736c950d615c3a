import MarkdownHighlight.CommandLine.Run
import MarkdownHighlight.Proofs.Engine.Accounting
import MarkdownHighlight.Proofs.Markup.Escaped

/-!
The markup that the program prints. It is the markup of the whole document, unless the
viewport of the arguments is inverted: such a viewport can be given, but the engine
refuses it, and the program prints an empty line in place of the document. Either way the
program succeeds and has no message of its own, and it never falls back to the plain
document; that a request was refused is in the log alone, which is not modelled.
-/

namespace MarkdownHighlight.CommandLine

theorem markupOutcome_of_upright (o : Options) (content : Text) (viewport? : Option Viewport)
    (upright : ∀ v, viewport? = some v → ¬ v.last < v.first)
    (fresh : Markup.isRendered content = false) :
    ∃ markup, Markup.Marks markup (Markup.escape content) ∧
      markupOutcome o content viewport? = ⟨0, markup ++ ['\n'], []⟩ := by
  have pass := ((Engine.Sound.create o).execute ⟨content, "", viewport?⟩).1
  rw [markupOutcome]
  generalize (Engine.create o).execute content viewport? = outcome at pass ⊢
  obtain ⟨p, e⟩ := outcome
  cases pass with
  | refused refuses => exact absurd ⟨rfl, upright⟩ refuses
  | cached markup admits found =>
      rw [Engine.create, MarkupCache.get?_empty] at found
      cases found
  | rendered markup admits absent rendered =>
      obtain ⟨same, made, marks⟩ := Markup.renderDocument_marks o.narrowing content viewport? fresh
      obtain rfl : markup = same := Except.ok.inj (rendered.symm.trans made)
      exact ⟨markup, marks, rfl⟩

theorem markupOutcome_of_inverted (o : Options) (content : Text) {v : Viewport}
    (inverted : v.last < v.first) : markupOutcome o content (some v) = ⟨0, ['\n'], []⟩ := by
  obtain ⟨cause, refuses⟩ := (Engine.create o).accepts_of_inverted (decide_eq_true inverted)
  rw [markupOutcome, Engine.execute_of_refuses refuses]

theorem run_of_markup (env : Environment) (arguments : List Text) {a : RunArguments} {o : Options}
    {content : Text} (parsed : parse arguments = .ok (.run a)) (marked : a.markup = true)
    (usable : env.options a.config? = .ok o) (readable : env.document a.file = .ok content) :
    run env arguments = markupOutcome o content a.viewport? := by
  have found : highlightFile env a = .ok (markupOutcome o content a.viewport?) := by
    rw [highlightFile, usable, readable, marked]
    rfl
  simp only [run, parsed, found]

/-- A run that is to print markup succeeds, with no message besides the log. It shows the
document, which is what deleting the tags leaves of its output, just when the viewport is
not inverted; of a document with an inverted viewport it only prints the end of the line. -/
theorem markup_shown_iff_upright (env : Environment) (arguments : List Text) {a : RunArguments}
    {o : Options} {content : Text} (parsed : parse arguments = .ok (.run a))
    (marked : a.markup = true) (usable : env.options a.config? = .ok o)
    (readable : env.document a.file = .ok content) (fresh : Markup.isRendered content = false) :
    let outcome := run env arguments
    outcome.code = 0 ∧ outcome.stderr = [] ∧
      (Markup.deleteTags outcome.stdout = Markup.escape content ++ ['\n'] ↔
        content = [] ∨ ∀ v, a.viewport? = some v → ¬ v.last < v.first) ∧
      ∀ v, a.viewport? = some v → v.last < v.first → outcome.stdout = ['\n'] := by
  intro outcome
  have printed : outcome = _ := run_of_markup env arguments parsed marked usable readable
  by_cases upright : ∀ v, a.viewport? = some v → ¬ v.last < v.first
  · obtain ⟨markup, marks, shown⟩ := markupOutcome_of_upright o content a.viewport? upright fresh
    rw [printed, shown]
    refine ⟨rfl, rfl, iff_of_true ?_ (Or.inr upright), fun v given inverted => ?_⟩
    · rw [marks.balanced.deleteTags_append, marks.deleted]
      rfl
    · exact absurd inverted (upright v given)
  · obtain ⟨v, given, inverted⟩ : ∃ v, a.viewport? = some v ∧ v.last < v.first := by
      simpa using upright
    rw [printed, given, markupOutcome_of_inverted o content inverted]
    refine ⟨rfl, rfl, ?_, fun _ _ _ => rfl⟩
    have refused : ¬ ∀ v', some v = some v' → ¬ v'.last < v'.first :=
      fun upright => upright v rfl inverted
    have bare : Markup.deleteTags ['\n'] = ['\n'] := rfl
    rw [or_iff_left refused, bare, List.self_eq_append_left,
      ← (Markup.Escaped.of_escape content).eq_nil_iff]

/-- The home directory has no settings, and the viewport is the last one that is given. -/
theorem markup_shown_iff_upright_repeated :
    let env : Environment := ⟨some "/home".toList,
      fun path => if path = "a.md".toList then some "*R&D*\n<b>".toUTF8 else none⟩
    let arguments := ["-m", "--viewport", "9:3", "a.md", "--viewport", "0:1"].map String.toList
    let content := "*R&D*\n<b>".toList
    parse arguments = .ok (.run ⟨true, none, some ⟨0, 1⟩, "a.md".toList⟩) ∧
      env.options none = .ok .standard ∧ env.document "a.md".toList = .ok content ∧
      Markup.isRendered content = false ∧ (run env arguments).code = 0 ∧
      Markup.deleteTags (run env arguments).stdout = Markup.escape content ++ ['\n'] := by
  intro env arguments content
  have parsed : parse arguments = .ok (.run ⟨true, none, some ⟨0, 1⟩, "a.md".toList⟩) := by rfl
  have usable : env.options none = .ok .standard := by rfl
  have readable : env.document "a.md".toList = .ok content := by rfl
  have fresh : Markup.isRendered content = false := by decide
  obtain ⟨code, -, shown, -⟩ :=
    markup_shown_iff_upright env arguments parsed rfl usable readable fresh
  refine ⟨parsed, usable, readable, fresh, code, shown.mpr (Or.inr ?_)⟩
  rintro v ⟨⟩
  decide

/-- The viewport can be given, and the document is not shown. -/
theorem document_dropped_when_inverted :
    let env : Environment := ⟨none,
      fun path => if path = "a.md".toList then some "hello".toUTF8 else none⟩
    let arguments := ["--markup", "--viewport", "5:2", "a.md"].map String.toList
    parse arguments = .ok (.run ⟨true, none, some ⟨5, 2⟩, "a.md".toList⟩) ∧
      env.document "a.md".toList = .ok "hello".toList ∧
      run env arguments = ⟨0, ['\n'], []⟩ ∧
      Markup.deleteTags (run env arguments).stdout ≠ Markup.escape "hello".toList ++ ['\n'] := by
  intro env arguments
  have printed : run env arguments = ⟨0, ['\n'], []⟩ := by rfl
  refine ⟨rfl, rfl, printed, ?_⟩
  rw [printed]
  decide

end MarkdownHighlight.CommandLine
