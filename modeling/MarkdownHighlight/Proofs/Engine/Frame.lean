import MarkdownHighlight.Engine.Session

/-!
What a pass leaves alone. It never looks at the scheduler, so it comes out the same
whatever waits there, and it leaves the engine as it was but for the cache and the
count of passes. To serve what was taken is to highlight it at once, and then to
resolve its handle.
-/

namespace MarkdownHighlight

def Engine.withScheduler (e : Engine) (scheduler : Scheduler) : Engine := { e with scheduler }

def Session.withScheduler (s : Session) (scheduler : Scheduler) : Session :=
  { s with engine := s.engine.withScheduler scheduler }

namespace Engine

variable (e : Engine) (content : Text) (viewport? : Option Viewport)

theorem runPass_withScheduler (scheduler : Scheduler) :
    (e.withScheduler scheduler).runPass content viewport? =
      ((e.runPass content viewport?).1,
        (e.runPass content viewport?).2.withScheduler scheduler) := by
  obtain ⟨options, grammar?, cache, _, passes, rendering, destroyed⟩ := e
  simp only [runPass, withScheduler]
  cases cache.get? (CacheKey.ofRequest content viewport?) with
  | some markup => rfl
  | none =>
      cases grammar? with
      | none => rfl
      | some grammar =>
          dsimp only
          cases Markup.renderDocumentWith grammar options.narrowing content viewport? <;> rfl

/-- A pass is the same under every scheduler, and hands it on. -/
theorem execute_withScheduler (scheduler : Scheduler) :
    (e.withScheduler scheduler).execute content viewport? =
      ((e.execute content viewport?).1,
        (e.execute content viewport?).2.withScheduler scheduler) := by
  have accepts : (e.withScheduler scheduler).accepts viewport? = e.accepts viewport? := rfl
  have pass := runPass_withScheduler { e with rendering := true } content viewport? scheduler
  simp only [withScheduler] at accepts pass ⊢
  simp only [execute, accepts, pass]
  cases e.accepts viewport? <;> rfl

theorem scheduler_execute : (e.execute content viewport?).2.scheduler = e.scheduler :=
  congrArg (·.2.scheduler) (e.execute_withScheduler content viewport? e.scheduler)

theorem destroyed_execute : (e.execute content viewport?).2.destroyed = e.destroyed := by
  have pass : ∀ e : Engine, (e.runPass content viewport?).2.destroyed = e.destroyed := by
    intro e
    simp only [runPass]
    repeat' split
    all_goals rfl
  simp only [execute]
  split
  · rfl
  · exact pass _

theorem rendering_execute (awake : e.rendering = false) :
    (e.execute content viewport?).2.rendering = false := by
  simp only [execute]
  split
  · exact awake
  · rfl

theorem deliver_some (p : Pending) (scheduler : Scheduler) :
    e.deliver (some p, scheduler) =
      (some ⟨p.request.target, (e.execute p.request.content p.request.viewport?).1⟩,
        (e.execute p.request.content p.request.viewport?).2.withScheduler (scheduler.resolve
          p.completion (e.execute p.request.content p.request.viewport?).1.status)) := by
  have pass := e.execute_withScheduler p.request.content p.request.viewport? scheduler
  simp only [withScheduler] at pass
  simp only [deliver, runPending, pass]
  rfl

end Engine

namespace Session

variable (s : Session)

theorem targets_withScheduler (scheduler : Scheduler) :
    (s.withScheduler scheduler).targets = s.targets := rfl

theorem highlight_withScheduler (r : Request) (scheduler : Scheduler) :
    (s.withScheduler scheduler).highlight r =
      ((s.highlight r).1, (s.highlight r).2.withScheduler scheduler) := by
  simp only [highlight, withScheduler, Engine.execute_withScheduler]

theorem deliver_some (p : Pending) (scheduler : Scheduler) :
    s.deliver (s.engine.deliver (some p, scheduler)) =
      (some (s.highlight p.request).1, (s.highlight p.request).2.withScheduler
        (scheduler.resolve p.completion (s.highlight p.request).1)) := by
  rw [Engine.deliver_some]
  rfl

theorem perform_of_due {p : Pending} (waits : s.engine.scheduler.pending? = some p) (call : Call)
    (due : call = .flush ∨ ∃ now, call = .pollAt now ∧ p.deadline ≤ now) : s.perform call =
      (.delivered (some (s.highlight p.request).1), (s.highlight p.request).2.withScheduler
        ({ s.engine.scheduler with pending? := none }.resolve p.completion
          (s.highlight p.request).1)) := by
  have taken : s.perform call = (s.deliver (s.engine.deliver
      (some p, { s.engine.scheduler with pending? := none }))).map .delivered id := by
    rcases due with rfl | ⟨now, rfl, due⟩
    · rw [← waits]
      rfl
    · rw [← s.engine.scheduler.takeDue_of_due waits due]
      rfl
  rw [taken, deliver_some]
  rfl

end Session

end MarkdownHighlight
