import MarkdownHighlight.Proofs.Engine.Docket
import MarkdownHighlight.Proofs.Engine.Transparent

/-!
Refused requests and the end of an engine. A request that an engine refuses leaves
everything as it was. An engine that was destroyed has given up its grammar, its cache
and what waited; it stays as it is from then on, but for the handles that it gives out
to those who still ask, and no call brings anything back.
-/

namespace MarkdownHighlight

namespace Engine

structure Retired (e : Engine) : Prop where
  destroyed : e.destroyed = true
  ungrammatical : e.grammar? = none
  emptied : e.cache = .empty e.cache.capacity
  unscheduled : e.scheduler.pending? = none

theorem accepts_of_destroyed {e : Engine} (gone : e.destroyed = true)
    (viewport? : Option Viewport) : e.accepts viewport? = .error .destroyed := by
  rw [accepts.eq_def, if_pos gone]

theorem accepts_of_inverted (e : Engine) {v : Viewport} (inverted : v.isInverted = true) :
    ∃ cause, e.accepts (some v) = .error cause := by
  cases gone : e.destroyed with
  | true => exact ⟨_, accepts_of_destroyed gone (some v)⟩
  | false =>
      refine ⟨.invalidViewport v.first v.last, ?_⟩
      rw [accepts, if_neg (Bool.eq_false_iff.mp gone)]
      exact if_pos inverted

theorem retired_destroy (e : Engine) (ended : e.destroyed = true → e.Retired) :
    e.destroy.Retired := by
  cases gone : e.destroyed with
  | true =>
      rw [destroy, if_pos gone]
      exact ended gone
  | false =>
      rw [destroy, if_neg (Bool.eq_false_iff.mp gone)]
      refine ⟨rfl, rfl, rfl, ?_⟩
      rw [Scheduler.cancel]
      cases waits : e.scheduler.pending? with
      | none => exact waits
      | some p => rfl

theorem destroy_keeps (e : Engine) : e.destroy.options = e.options ∧
    e.destroy.passes = e.passes ∧ e.destroy.cache.capacity = e.cache.capacity := by
  rw [destroy]
  split
  · exact ⟨rfl, rfl, rfl⟩
  · exact ⟨rfl, rfl, rfl⟩

end Engine

namespace Session

def withCompletions (s : Session) (completions : Completions) : Session :=
  s.withScheduler { s.engine.scheduler with completions }

theorem retired_withCompletions {s : Session} (retired : s.engine.Retired)
    (completions : Completions) : (s.withCompletions completions).engine.Retired :=
  ⟨retired.destroyed, retired.ungrammatical, retired.emptied, retired.unscheduled⟩

theorem perform_of_refuses (s : Session) (r : Request) {cause : HighlightError}
    (refuses : s.engine.accepts r.viewport? = .error cause) :
    s.perform (.highlight r) = (.status .skipped, s) := by
  rw [perform, highlight, Engine.execute_of_refuses refuses]
  rfl

section Retired

variable {s : Session}

theorem deliver_of_retired (retired : s.engine.Retired)
    {taken : Option Pending × Scheduler}
    (source : taken = s.engine.scheduler.takePending ∨ taken = (none, s.engine.scheduler)) :
    s.deliver (s.engine.deliver taken) = (none, s) := by
  have none : taken = (none, s.engine.scheduler) := by
    rcases source with rfl | rfl
    · rw [Scheduler.takePending, ← retired.unscheduled]
    · rfl
  rw [none]
  rfl

theorem pollAt_of_retired (retired : s.engine.Retired) (now : Nat) :
    s.perform (.pollAt now) = (.delivered none, s) := by
  rw [perform, pollAt, Engine.pollAt,
    deliver_of_retired retired (s.engine.scheduler.takeDue_cases now)]
  rfl

theorem flush_of_retired (retired : s.engine.Retired) :
    s.perform .flush = (.delivered none, s) := by
  rw [perform, flush, Engine.flush, deliver_of_retired retired (Or.inl rfl)]
  rfl

theorem perform_of_retired (retired : s.engine.Retired) (call : Call) :
    ∃ completions, (s.perform call).2 = s.withCompletions completions := by
  cases call with
  | highlight r =>
      rw [s.perform_of_refuses r (Engine.accepts_of_destroyed retired.destroyed r.viewport?)]
      exact ⟨s.engine.scheduler.completions, rfl⟩
  | schedule r now =>
      refine ⟨(s.engine.scheduler.completions.issue (some .skipped)).2, ?_⟩
      simp only [perform, schedule, Engine.schedule, if_pos retired.destroyed]
      rfl
  | pollAt now =>
      rw [pollAt_of_retired retired now]
      exact ⟨s.engine.scheduler.completions, rfl⟩
  | flush =>
      rw [flush_of_retired retired]
      exact ⟨s.engine.scheduler.completions, rfl⟩
  | update u =>
      refine ⟨s.engine.scheduler.completions, ?_⟩
      rw [perform, Engine.updateOptions, if_pos retired.destroyed]
      rfl
  | clearCache =>
      refine ⟨s.engine.scheduler.completions, ?_⟩
      have same : s.engine.cache.clear = s.engine.cache := retired.emptied.symm
      rw [perform, Engine.clearCache, same]
      rfl
  | destroy =>
      refine ⟨s.engine.scheduler.completions, ?_⟩
      rw [perform, Engine.destroy, if_pos retired.destroyed]
      rfl

/-- However it is called, an engine that has ended only gives out handles. -/
theorem after_of_retired (retired : s.engine.Retired) (calls : List Call) :
    ∃ completions, s.after calls = s.withCompletions completions := by
  induction calls generalizing s with
  | nil => exact ⟨s.engine.scheduler.completions, rfl⟩
  | cons call later ih =>
      obtain ⟨first, here⟩ := perform_of_retired retired call
      obtain ⟨last, there⟩ := ih (retired_withCompletions retired first)
      refine ⟨last, ?_⟩
      rw [after, List.foldl_cons, here]
      exact there

end Retired

theorem retired_perform (s : Session) (ended : s.engine.destroyed = true → s.engine.Retired)
    (call : Call) (gone : (s.perform call).2.engine.destroyed = true) :
    (s.perform call).2.engine.Retired := by
  cases before : s.engine.destroyed with
  | true =>
      obtain ⟨completions, same⟩ := perform_of_retired (ended before) call
      rw [same]
      exact retired_withCompletions (ended before) completions
  | false =>
      have turn := s.perform_turn (fun gone => (ended gone).unscheduled) call
      rcases turn.destroyed_iff.mp gone with gone | rfl
      · exact absurd gone (Bool.eq_false_iff.mp before)
      · exact s.engine.retired_destroy ended

theorem retired_after (s : Session) (working : s.engine.destroyed = false) (calls : List Call) :
    (s.after calls).engine.destroyed = true → (s.after calls).engine.Retired :=
  Run.keeps perform (fun _ s => s.engine.destroyed = true → s.engine.Retired)
    (fun _ s call ended => s.retired_perform ended call)
    (fun gone => absurd gone (Bool.eq_false_iff.mp working)) calls

/-- A request that is refused leaves everything as it was, and an engine that is
destroyed has ended for good: whatever calls follow, no target changes, the settings and
the count of passes stand, the cache is empty, nothing waits and there is no grammar;
requests are refused and there is nothing to serve. -/
theorem refused_inert_destroyed_final :
    (∀ (s : Session) (r : Request) (v : Viewport), r.viewport? = some v → v.last < v.first →
        s.perform (.highlight r) = (.status .skipped, s)) ∧
      ∀ (o : Options) (grammar : List Pattern) (targets : TargetStore) (before later : List Call),
        let start : Session := ⟨{ Engine.create o with grammar? := some grammar }, targets⟩
        let last := start.after before
        let s := (last.perform .destroy).2.after later
        s.targets = last.targets ∧ s.engine.options = last.engine.options ∧
          s.engine.passes = last.engine.passes ∧ s.engine.destroyed = true ∧
          s.engine.cache = .empty last.engine.cache.capacity ∧
          s.engine.scheduler.isPending = false ∧ s.engine.deadline? = none ∧
          s.engine.grammar? = none ∧
          (∀ r, s.perform (.highlight r) = (.status .skipped, s)) ∧
          (∀ now, s.perform (.pollAt now) = (.delivered none, s)) ∧
          s.perform .flush = (.delivered none, s) := by
  constructor
  · intro s r v shown inverted
    obtain ⟨cause, refuses⟩ := s.engine.accepts_of_inverted (decide_eq_true inverted)
    exact s.perform_of_refuses r (shown ▸ refuses)
  · intro o grammar targets before later start last s
    have ended : (last.perform .destroy).2.engine.Retired :=
      last.engine.retired_destroy (start.retired_after rfl before)
    obtain ⟨completions, same⟩ : ∃ c, s = (last.perform .destroy).2.withCompletions c :=
      after_of_retired ended later
    obtain ⟨options, passes, capacity⟩ := last.engine.destroy_keeps
    have retired : s.engine.Retired := by
      rw [same]
      exact retired_withCompletions ended completions
    refine ⟨?targets, ?options, ?passes, retired.destroyed, ?cache, ?idle, ?deadline,
      retired.ungrammatical, fun r => ?refused, pollAt_of_retired retired,
      flush_of_retired retired⟩
    case targets => rw [same]; rfl
    case options => rw [same]; exact options
    case passes => rw [same]; exact passes
    case cache =>
      have room : s.engine.cache.capacity = last.engine.cache.capacity := by
        rw [same]
        exact capacity
      exact room ▸ retired.emptied
    case idle => rw [Scheduler.isPending, retired.unscheduled]; rfl
    case deadline => rw [Engine.deadline?, Scheduler.deadline?, retired.unscheduled]; rfl
    case refused =>
      exact s.perform_of_refuses r (Engine.accepts_of_destroyed retired.destroyed r.viewport?)

/-- A request waits while another is refused; the engine ends before it is due. -/
theorem refused_inert_destroyed_final_waiting :
    let waiting : Request := ⟨"*a*".toList, "note", none⟩
    let inverted : Request := ⟨"*b*".toList, "note", some ⟨9, 3⟩⟩
    let s := (create {}).after [.schedule waiting 5]
    s.engine.scheduler.isPending = true ∧
      s.perform (.highlight inverted) = (.status .skipped, s) ∧
      ((s.perform .destroy).2.after [.schedule waiting 7, .flush]).targets = s.targets := by
  intro waiting inverted s
  obtain ⟨refused, final⟩ := refused_inert_destroyed_final
  exact ⟨rfl, refused s inverted ⟨9, 3⟩ rfl (by decide),
    (final {} Grammar.markdown .empty [.schedule waiting 5] [.schedule waiting 7, .flush]).1⟩

end Session

end MarkdownHighlight
