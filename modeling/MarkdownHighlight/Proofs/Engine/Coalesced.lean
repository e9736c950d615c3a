import MarkdownHighlight.Proofs.Engine.Frame

/-!
A burst of edits is worth one pass. While edits come in, and the clock is looked at
too early, an engine changes nothing but what waits in its scheduler; so the pass that
ends the burst is the one that a request for the last edit alone would have had at once.
-/

namespace MarkdownHighlight

structure Edit where
  request : Request
  now : Nat
  polls : List Nat
  deriving DecidableEq, Repr

namespace Edit

def calls (e : Edit) : List Call := .schedule e.request e.now :: e.polls.map .pollAt

def Early (delay : Nat) (e : Edit) : Prop := ∀ now ∈ e.polls, now < e.now + delay

def schedule (scheduler : Scheduler) (edits : List Edit) : Scheduler :=
  edits.foldl (fun scheduler e => (scheduler.schedule e.request e.now).2) scheduler

theorem delay_schedule (scheduler : Scheduler) (edits : List Edit) :
    (schedule scheduler edits).delay = scheduler.delay := by
  induction edits generalizing scheduler with
  | nil => rfl
  | cons e later ih => exact (ih _).trans (scheduler.delay_schedule e.request e.now)

end Edit

theorem Engine.schedule_of_working (e : Engine) (working : e.destroyed = false)
    (request : Request) (now : Nat) : e.schedule request now =
      ((e.scheduler.schedule request now).1,
        e.withScheduler (e.scheduler.schedule request now).2) := by
  rw [schedule, if_neg (Bool.not_eq_true _ ▸ working)]
  rfl

namespace Session

theorem after_append (s : Session) (calls later : List Call) :
    s.after (calls ++ later) = (s.after calls).after later :=
  List.foldl_append

theorem after_polls (s : Session) {p : Pending} (waits : s.engine.scheduler.pending? = some p)
    (polls : List Nat) (early : ∀ now ∈ polls, now < p.deadline) :
    s.after (polls.map .pollAt) = s := by
  induction polls with
  | nil => rfl
  | cons now later ih =>
      obtain ⟨here, there⟩ := List.forall_mem_cons.mp early
      have same : (s.perform (.pollAt now)).2 = s := by
        simp only [perform, pollAt, Engine.pollAt]
        rw [s.engine.scheduler.takeDue_of_early waits here]
        rfl
      rw [List.map_cons, after, List.foldl_cons, same]
      exact ih there

theorem after_edit (s : Session) (working : s.engine.destroyed = false) (e : Edit)
    (early : e.Early s.engine.scheduler.delay) : s.after e.calls =
      s.withScheduler (s.engine.scheduler.schedule e.request e.now).2 := by
  have scheduled : (s.perform (.schedule e.request e.now)).2 =
      s.withScheduler (s.engine.scheduler.schedule e.request e.now).2 := by
    simp only [perform, schedule, s.engine.schedule_of_working working]
    rfl
  obtain ⟨p, waits, -, deadline⟩ := s.engine.scheduler.pending?_schedule e.request e.now
  rw [Edit.calls, after, List.foldl_cons, scheduled]
  exact after_polls _ waits e.polls fun now member => deadline ▸ early now member

/-- While edits come in, only the scheduler notices. -/
theorem after_edits (s : Session) (working : s.engine.destroyed = false) (edits : List Edit)
    (early : ∀ e ∈ edits, e.Early s.engine.scheduler.delay) :
    s.after (edits.flatMap Edit.calls) =
      s.withScheduler (Edit.schedule s.engine.scheduler edits) := by
  induction edits generalizing s with
  | nil => rfl
  | cons e later ih =>
      obtain ⟨here, there⟩ := List.forall_mem_cons.mp early
      have delay := s.engine.scheduler.delay_schedule e.request e.now
      rw [List.flatMap_cons, after_append, s.after_edit working e here]
      exact ih (s.withScheduler _) working fun e member => delay.symm ▸ there e member

/-- A burst leaves its last edit waiting, and nothing else behind. -/
theorem after_burst (s : Session) (working : s.engine.destroyed = false) (earlier : List Edit)
    (last : Edit) (early : ∀ e ∈ earlier ++ [last], e.Early s.engine.scheduler.delay) :
    ∃ scheduler p, s.after ((earlier ++ [last]).flatMap Edit.calls) = s.withScheduler scheduler ∧
      scheduler.delay = s.engine.scheduler.delay ∧ scheduler.pending? = some p ∧
      p.request = last.request ∧ p.deadline = last.now + s.engine.scheduler.delay := by
  obtain ⟨p, waits, request, deadline⟩ :=
    (Edit.schedule s.engine.scheduler earlier).pending?_schedule last.request last.now
  rw [Edit.delay_schedule] at deadline
  refine ⟨Edit.schedule s.engine.scheduler (earlier ++ [last]), p,
    s.after_edits working _ early, Edit.delay_schedule _ _, ?_, request, deadline⟩
  rw [Edit.schedule, List.foldl_append]
  exact waits

theorem highlight_targets (s : Session) (r : Request) {name : String} (other : name ≠ r.target) :
    (s.highlight r).2.targets.get name = s.targets.get name := by
  simp only [highlight, TargetStore.receive]
  split
  · rfl
  · exact s.targets.get_update_of_ne other _

/-- A burst of edits is worth one immediate pass over the last of them: it has the same
status and leaves the same targets, and the engines differ in nothing but the handles
that their schedulers gave out. The targets of the other edits are never touched. -/
theorem coalesced_eq_highlight (s : Session) (working : s.engine.destroyed = false)
    (idle : s.engine.scheduler.pending? = none) (earlier : List Edit) (last : Edit)
    (early : ∀ e ∈ earlier ++ [last], e.Early s.engine.scheduler.delay) (final : Call)
    (due : final = .flush ∨
      ∃ now, final = .pollAt now ∧ last.now + s.engine.scheduler.delay ≤ now) :
    let waiting := s.after ((earlier ++ [last]).flatMap Edit.calls)
    let done := waiting.perform final
    let direct := s.highlight last.request
    done.1 = .delivered (some direct.1) ∧
    -- The targets, the options, the cache and the count of passes are all the same.
    done.2 = direct.2.withScheduler done.2.engine.scheduler ∧
    done.2.engine.scheduler.pending? = none ∧ direct.2.engine.scheduler.pending? = none ∧
    done.2.engine.scheduler.delay = direct.2.engine.scheduler.delay ∧
    waiting.targets = s.targets ∧
    ∀ name, name ≠ last.request.target → done.2.targets.get name = s.targets.get name := by
  intro waiting done direct
  obtain ⟨scheduler, p, scheduled, delay, waits, request, deadline⟩ :=
    s.after_burst working earlier last early
  have served := (s.withScheduler scheduler).perform_of_due waits final (deadline.symm ▸ due)
  rw [highlight_withScheduler, request] at served
  have waiting_eq : waiting = _ := scheduled
  have done_eq : done = _ := (congrArg (·.perform final) scheduled).trans served
  have kept : direct.2.engine.scheduler = s.engine.scheduler := s.engine.scheduler_execute _ _
  rw [done_eq, kept, idle, waiting_eq]
  refine ⟨rfl, rfl, rfl, rfl, delay, rfl, ?_⟩
  exact fun name other => s.highlight_targets last.request other

/-- The clock is set back between the edits, and looked at once too early after each. -/
theorem coalesced_eq_highlight_set_back :
    let s := create {}
    let first : Edit := ⟨⟨"*a*".toList, "draft", none⟩, 10, [300000009]⟩
    let last : Edit := ⟨⟨"*ab*".toList, "note", none⟩, 0, [299999999]⟩
    let done := (s.after (([first] ++ [last]).flatMap Edit.calls)).perform (.pollAt 300000000)
    done.1 = .delivered (some .rendered) ∧
    done.2.targets = (s.highlight last.request).2.targets ∧
    (done.2.targets.get "note").writes = 1 ∧ (done.2.targets.get "draft").writes = 0 := by
  intro s first last
  have early : ∀ e ∈ [first] ++ [last], e.Early s.engine.scheduler.delay := by
    unfold Edit.Early
    decide
  obtain ⟨status, same, -, -, -, -, untouched⟩ := s.coalesced_eq_highlight rfl rfl [first] last
    early (.pollAt 300000000) (Or.inr ⟨300000000, rfl, by decide +kernel⟩)
  have rendered : (s.highlight last.request).1 = .rendered := by decide +kernel
  have written : ((s.highlight last.request).2.targets.get "note").writes = 1 := by decide +kernel
  rw [rendered] at status
  have targets := (congrArg Session.targets same).trans (targets_withScheduler _ _)
  dsimp only
  refine ⟨status, targets, ?_, ?_⟩
  · rw [targets]
    exact written
  · rw [untouched "draft" (by decide)]
    rfl

end Session

end MarkdownHighlight
