import MarkdownHighlight.Proofs.Engine.Accounting
import MarkdownHighlight.Proofs.Engine.Coalesced

/-!
Requests that cannot be served, in the place of one that could. A scheduler takes any
request, and only the pass that serves it looks at its viewport. So an inverted viewport
costs what was waiting: the pass that comes is refused, and its completion, which the
earlier request shares, ends as skipped.
-/

namespace MarkdownHighlight

/-- Edits that come while a request waits share its handle, and nothing but the waiting
request changes. -/
theorem Edit.schedule_of_waiting {scheduler : Scheduler} {p : Pending}
    (waits : scheduler.pending? = some p) (edits : List Edit) :
    ∃ q, Edit.schedule scheduler edits = { scheduler with pending? := some q } ∧
      q.completion = p.completion ∧ (q = p ∧ edits = [] ∨ ∃ e ∈ edits, q.request = e.request) := by
  induction edits generalizing scheduler p with
  | nil => exact ⟨p, by rw [← waits]; rfl, rfl, Or.inl ⟨rfl, rfl⟩⟩
  | cons e later ih =>
      have taken : (scheduler.schedule e.request e.now).2 = { scheduler with
          pending? := some ⟨e.request, e.now + scheduler.delay, p.completion, p.coalesced + 1⟩ } := by
        rw [Scheduler.schedule, waits]
      obtain ⟨q, scheduled, shared, source⟩ := ih (congrArg Scheduler.pending? taken)
      refine ⟨q, ?_, shared, Or.inr ?_⟩
      · rw [Edit.schedule, List.foldl_cons, taken]
        rw [taken] at scheduled
        exact scheduled
      · rcases source with ⟨rfl, -⟩ | ⟨e', later, same⟩
        · exact ⟨e, .head _, rfl⟩
        · exact ⟨e', .tail _ later, same⟩

namespace Session

variable {s : Session} {p : Pending}

theorem flush_of_refused (waits : s.engine.scheduler.pending? = some p) {cause : HighlightError}
    (refuses : s.engine.accepts p.request.viewport? = .error cause) : s.perform .flush =
      (.delivered (some .skipped), s.withScheduler
        ({ s.engine.scheduler with pending? := none }.resolve p.completion .skipped)) := by
  have skipped : s.highlight p.request = (.skipped, s) := by
    rw [highlight, Engine.execute_of_refuses refuses]
    rfl
  rw [s.perform_of_due waits .flush (Or.inl rfl), skipped]

theorem flush_of_admitted {capacity : Nat} (sound : s.engine.Sound capacity)
    (waits : s.engine.scheduler.pending? = some p) (admits : s.engine.Admits p.request) :
    ∃ status markup, s.engine.Obtains p.request ⟨status, .write markup⟩ ∧
      (s.perform .flush).1 = .delivered (some status) ∧ (s.perform .flush).2.targets =
        s.targets.update p.request.target (RenderTarget.write markup) := by
  have obtains := (sound.execute p.request).1
  have served := s.perform_of_due waits .flush (Or.inl rfl)
  rw [highlight] at served
  generalize s.engine.execute p.request.content p.request.viewport? = outcome at obtains served
  obtain ⟨pass, e⟩ := outcome
  rcases obtains.skipped_or_shown with rfl | ⟨status, markup, -, rfl⟩
  · exact absurd admits (obtains.skipped_iff.mp rfl)
  · refine ⟨status, markup, obtains, ?_⟩
    rw [served]
    exact ⟨rfl, rfl⟩

/-- Invalid edits leave a request waiting that will be refused, and the handle of the one
that they displaced. -/
theorem flush_of_displaced (working : s.engine.destroyed = false)
    (waits : s.engine.scheduler.pending? = some p) {invalid : List Edit} (nonempty : invalid ≠ [])
    (inverted : ∀ e ∈ invalid, ∃ v, e.request.viewport? = some v ∧ v.last < v.first)
    (early : ∀ e ∈ invalid, e.Early s.engine.scheduler.delay) :
    (s.after (invalid.flatMap Edit.calls)).perform .flush =
      (.delivered (some .skipped), s.withScheduler
        ({ s.engine.scheduler with pending? := none }.resolve p.completion .skipped)) := by
  obtain ⟨q, scheduled, shared, source⟩ := Edit.schedule_of_waiting waits invalid
  obtain ⟨e, inside, same⟩ := source.resolve_left fun kept => nonempty kept.2
  obtain ⟨v, shown, upside⟩ := inverted e inside
  obtain ⟨cause, refuses⟩ := s.engine.accepts_of_inverted (decide_eq_true upside)
  rw [← shown, ← same] at refuses
  have displaced := s.after_edits working invalid early
  rw [scheduled] at displaced
  have waiting : (s.withScheduler { s.engine.scheduler with
      pending? := some q }).engine.scheduler.pending? = some q := rfl
  rw [displaced, flush_of_refused waiting refuses, shared]
  rfl

theorem update_write_ne (targets : TargetStore) (name : String) (markup : Text) :
    targets ≠ targets.update name (RenderTarget.write markup) := by
  intro same
  have writes := congrArg (fun targets => (targets.get name).writes) same
  rw [targets.get_update] at writes
  exact Nat.succ_ne_self _ writes.symm

/-- Invalid edits that come while a request waits displace it. The pass at the end is then
skipped, as the completion of the request tells, and no target sees it. So the request that
waits is served as it would have been just when no such edit comes. -/
theorem flush_kept_iff_undisturbed (reached : ∃ o before, s = (create o).after before)
    (working : s.engine.destroyed = false) (waits : s.engine.scheduler.pending? = some p)
    (upright : ∀ v, p.request.viewport? = some v → ¬ v.last < v.first) (invalid : List Edit)
    (inverted : ∀ e ∈ invalid, ∃ v, e.request.viewport? = some v ∧ v.last < v.first)
    (early : ∀ e ∈ invalid, e.Early s.engine.scheduler.delay) :
    let undisturbed := s.perform .flush
    let disturbed := (s.after (invalid.flatMap Edit.calls)).perform .flush
    (∃ status markup, s.engine.Obtains p.request ⟨status, .write markup⟩ ∧
      undisturbed.1 = .delivered (some status) ∧ undisturbed.2.targets =
        s.targets.update p.request.target (RenderTarget.write markup)) ∧
    (disturbed = undisturbed ↔ invalid = []) ∧
    (disturbed.2.targets = undisturbed.2.targets ↔ invalid = []) ∧
    (invalid ≠ [] → disturbed.1 = .delivered (some .skipped) ∧
      disturbed.2.targets = s.targets ∧ disturbed.2.engine.scheduler.pending? = none ∧
      disturbed.2.engine.scheduler.completions =
        s.engine.scheduler.completions.resolve p.completion .skipped) := by
  intro undisturbed disturbed
  have sound : ∃ capacity, s.engine.Sound capacity := by
    obtain ⟨o, before, rfl⟩ := reached
    exact ⟨_, (books_after o before).sound⟩
  obtain ⟨capacity, sound⟩ := sound
  obtain ⟨status, markup, obtains, replied, written⟩ :=
    flush_of_admitted sound waits ⟨working, upright⟩
  refine ⟨⟨status, markup, obtains, replied, written⟩, ?_⟩
  by_cases none : invalid = []
  · subst none
    exact ⟨iff_of_true rfl rfl, iff_of_true rfl rfl, fun some => absurd rfl some⟩
  · have lost : disturbed = _ := flush_of_displaced working waits none inverted early
    have unseen : disturbed.2.targets ≠ undisturbed.2.targets := by
      rw [lost, written]
      exact update_write_ne _ _ _
    refine ⟨iff_of_false (fun same => unseen ?_) none, iff_of_false unseen none, fun _ => ?_⟩
    · rw [same]
    · rw [lost]
      exact ⟨rfl, rfl, rfl, rfl⟩

/-- The clock is looked at between two invalid edits, and what waited is lost. -/
theorem flush_kept_iff_undisturbed_twice :
    let s := (create {}).after [.schedule ⟨"*a*".toList, "note", none⟩ 0]
    let invalid : List Edit := [⟨⟨"*b*".toList, "note", some ⟨9, 3⟩⟩, 5, [300000004]⟩,
      ⟨⟨"*c*".toList, "pane", some ⟨2, 0⟩⟩, 7, []⟩]
    let disturbed := (s.after (invalid.flatMap Edit.calls)).perform .flush
    (∀ e ∈ invalid, e.Early s.engine.scheduler.delay) ∧
      disturbed.1 = .delivered (some .skipped) ∧ disturbed.2.targets = s.targets ∧
      disturbed.2.targets ≠ (s.perform .flush).2.targets := by
  intro s invalid disturbed
  have inverted : ∀ e ∈ invalid, ∃ v, e.request.viewport? = some v ∧ v.last < v.first :=
    List.forall_mem_cons.mpr ⟨⟨⟨9, 3⟩, rfl, by decide⟩,
      List.forall_mem_singleton.mpr ⟨⟨2, 0⟩, rfl, by decide⟩⟩
  have early : ∀ e ∈ invalid, e.Early s.engine.scheduler.delay := by
    unfold Edit.Early
    decide
  obtain ⟨-, -, kept, lost⟩ :=
    flush_kept_iff_undisturbed ⟨_, _, rfl⟩ rfl rfl (by rintro v ⟨⟩) invalid inverted early
  obtain ⟨skipped, untouched, -, -⟩ := lost (by decide)
  exact ⟨early, skipped, untouched, fun same => absurd (kept.mp same) (by decide)⟩

/-- One call with an inverted viewport, and the edit that waited is never shown. -/
theorem waiting_edit_displaced :
    let request : Request := ⟨"*a*".toList, "note", none⟩
    let s := (create {}).after [.schedule request 0]
    let called := (s.perform (.schedule ⟨"*b*".toList, "pane", some ⟨9, 3⟩⟩ 5)).2
    s.engine.destroyed = false ∧
      s.engine.scheduler.pending?.map (·.request) = some request ∧
      (s.perform .flush).1 = .delivered (some .rendered) ∧
      ((s.perform .flush).2.targets.get "note").writes = 1 ∧
      (called.perform .flush).1 = .delivered (some .skipped) ∧
      ((called.perform .flush).2.targets.get "note").writes = 0 := by
  intro request s called
  have rendered : (s.perform .flush).1 = .delivered (some .rendered) := by decide +kernel
  have written : ((s.perform .flush).2.targets.get "note").writes = 1 := by decide +kernel
  exact ⟨rfl, rfl, rendered, written, rfl, rfl⟩

end Session

end MarkdownHighlight
