import MarkdownHighlight.Proofs.Cache.FirstInFirstOut
import MarkdownHighlight.Proofs.Engine.Retired

/-!
The books of an engine. A pass that answers with markup writes it to its target, counts
itself, and leaves the cache within its capacity; any other pass was refused and leaves
no trace. So the count of passes, the writes that the targets have seen and what they
show can all be told from the passes of a run.
-/

namespace MarkdownHighlight

def PassStatus.shows : PassStatus → Bool
  | .rendered | .cached => true
  | _ => false

namespace Engine

structure Admits (e : Engine) (r : Request) : Prop where
  working : e.destroyed = false
  upright : ∀ v, r.viewport? = some v → ¬ v.last < v.first

theorem accepts_iff (e : Engine) (r : Request) :
    e.accepts r.viewport? = .ok () ↔ e.Admits r := by
  constructor
  · intro accepted
    refine ⟨working_of_accepts accepted, fun v shown inverted => ?_⟩
    obtain ⟨cause, refuses⟩ := e.accepts_of_inverted (decide_eq_true inverted)
    rw [shown, refuses] at accepted
    cases accepted
  · rintro ⟨working, upright⟩
    rw [accepts.eq_def, if_neg (Bool.eq_false_iff.mp working)]
    cases shown : r.viewport? with
    | none => rfl
    | some v => exact if_neg (Bool.eq_false_iff.mp (decide_eq_false (upright v shown)))

/-- What a request gets from an engine: nothing if it is refused, markup that is cached
for it, or else markup that is rendered for it. -/
inductive Obtains (e : Engine) (r : Request) : Pass → Prop
  | refused (refuses : ¬ e.Admits r) : e.Obtains r ⟨.skipped, .none⟩
  | cached (markup : Text) (admits : e.Admits r)
      (found : e.cache.get? (CacheKey.ofRequest r.content r.viewport?) = some markup) :
      e.Obtains r ⟨.cached, .write markup⟩
  | rendered (markup : Text) (admits : e.Admits r)
      (absent : e.cache.get? (CacheKey.ofRequest r.content r.viewport?) = none)
      (rendered : Markup.renderDocument e.options.narrowing r.content r.viewport? = .ok markup) :
      e.Obtains r ⟨.rendered, .write markup⟩

/-- The mark of a running pass is not looked at. -/
theorem Obtains.of_running {e : Engine} {r : Request} {p : Pass}
    (obtains : Obtains { e with rendering := true } r p) : e.Obtains r p := by
  cases obtains with
  | refused refuses => exact .refused fun admits => refuses ⟨admits.working, admits.upright⟩
  | cached markup admits found => exact .cached markup ⟨admits.working, admits.upright⟩ found
  | rendered markup admits absent rendered =>
      exact .rendered markup ⟨admits.working, admits.upright⟩ absent rendered

theorem Obtains.skipped_or_shown {e : Engine} {r : Request} {p : Pass} (obtains : e.Obtains r p) :
    p = ⟨.skipped, .none⟩ ∨ ∃ status markup, status.shows = true ∧ p = ⟨status, .write markup⟩ := by
  cases obtains with
  | refused => exact Or.inl rfl
  | cached markup => exact Or.inr ⟨.cached, markup, rfl, rfl⟩
  | rendered markup => exact Or.inr ⟨.rendered, markup, rfl, rfl⟩

theorem Obtains.shown_iff {e : Engine} {r : Request} {p : Pass} (obtains : e.Obtains r p) :
    p.status = .rendered ∨ p.status = .cached ↔ e.Admits r := by
  cases obtains with
  | refused refuses => exact ⟨nofun, fun admits => absurd admits refuses⟩
  | cached markup admits => exact ⟨fun _ => admits, fun _ => Or.inr rfl⟩
  | rendered markup admits => exact ⟨fun _ => admits, fun _ => Or.inl rfl⟩

theorem Obtains.skipped_iff {e : Engine} {r : Request} {p : Pass} (obtains : e.Obtains r p) :
    p.status = .skipped ↔ ¬ e.Admits r := by
  cases obtains with
  | refused refuses => exact ⟨fun _ => refuses, fun _ => rfl⟩
  | cached markup admits => exact ⟨nofun, fun refuses => absurd admits refuses⟩
  | rendered markup admits => exact ⟨nofun, fun refuses => absurd admits refuses⟩

/-- What every engine keeps up: it has the grammar for as long as it works, and its
cache is a first-in first-out map. -/
structure Sound (capacity : Nat) (e : Engine) : Prop where
  grammar : e.destroyed = false → e.grammar? = some Grammar.markdown
  cache : ∃ m, e.cache.Holds m ∧ m.capacity = capacity

namespace Sound

variable {capacity : Nat} {e : Engine}

theorem create (o : Options) : (Engine.create o).Sound o.cacheCapacity.toNat :=
  ⟨fun _ => rfl, _, .empty _, rfl⟩

theorem size_le (sound : e.Sound capacity) :
    e.cache.capacity = capacity ∧ e.cache.size ≤ capacity := by
  obtain ⟨m, holds, rfl⟩ := sound.cache
  exact ⟨holds.capacity, holds.size_le⟩

theorem clearCache (sound : e.Sound capacity) : e.clearCache.Sound capacity := by
  obtain ⟨m, holds, rfl⟩ := sound.cache
  exact ⟨sound.grammar, m.clear, holds.clear, rfl⟩

theorem withScheduler (sound : e.Sound capacity) (scheduler : Scheduler) :
    (e.withScheduler scheduler).Sound capacity :=
  ⟨sound.grammar, sound.cache⟩

theorem updateOptions (sound : e.Sound capacity) (u : OptionsUpdate) :
    (e.updateOptions u).Sound capacity := by
  rw [Engine.updateOptions]
  split
  · exact sound
  · refine ⟨sound.grammar, ?_⟩
    dsimp only
    split
    · exact sound.clearCache.cache
    · exact sound.cache

theorem destroy (sound : e.Sound capacity) : e.destroy.Sound capacity := by
  rw [Engine.destroy]
  split
  · exact sound
  · refine ⟨fun working => ?_, sound.clearCache.cache⟩
    cases working

theorem runPass (sound : e.Sound capacity) {r : Request} (admits : e.Admits r) :
    e.Obtains r (e.runPass r.content r.viewport?).1 ∧
      (e.runPass r.content r.viewport?).1.status.shows = true ∧
      (e.runPass r.content r.viewport?).2.passes = e.passes + 1 ∧
      (e.runPass r.content r.viewport?).2.Sound capacity := by
  have known := sound.grammar admits.working
  cases found : e.cache.get? (CacheKey.ofRequest r.content r.viewport?) with
  | some markup =>
      rw [runPass_of_hit found]
      exact ⟨.cached markup admits found, rfl, rfl, sound.grammar, sound.cache⟩
  | none =>
      obtain ⟨markup, rendered⟩ :=
        Markup.renderDocument_ok e.options.narrowing r.content r.viewport?
      obtain ⟨m, holds, room⟩ := sound.cache
      rw [runPass_of_miss found known rendered]
      refine ⟨.rendered markup admits found rendered, rfl, rfl, sound.grammar, ?_⟩
      exact ⟨_, holds.put _ markup, (m.capacity_put _ markup).trans room⟩

theorem execute (sound : e.Sound capacity) (r : Request) :
    e.Obtains r (e.execute r.content r.viewport?).1 ∧
      (e.execute r.content r.viewport?).2.passes = e.passes +
        (e.execute r.content r.viewport?).1.status.shows.toNat ∧
      (e.execute r.content r.viewport?).2.Sound capacity := by
  cases accepted : e.accepts r.viewport? with
  | error cause =>
      rw [execute_of_refuses accepted]
      refine ⟨.refused fun admits => ?_, rfl, sound⟩
      rw [(e.accepts_iff r).mpr admits] at accepted
      cases accepted
  | ok =>
      have admits := (e.accepts_iff r).mp accepted
      have running : Sound capacity { e with rendering := true } := ⟨sound.grammar, sound.cache⟩
      obtain ⟨obtains, shows, counted, kept⟩ :=
        running.runPass (r := r) ⟨admits.working, admits.upright⟩
      rw [execute_of_accepts accepted]
      refine ⟨obtains.of_running, ?_, kept.grammar, kept.cache⟩
      rw [shows]
      exact counted

end Sound

end Engine

def Pass.markup? (p : Pass) : Option Text :=
  match p.effect with
  | .write markup => some markup
  | _ => none

def Engine.Delivery.markupFor? (name : String) (d : Engine.Delivery) : Option Text :=
  if d.target = name then d.pass.markup? else none

namespace Session

def delivery? (s : Session) : Call → Option Engine.Delivery
  | .highlight r => some ⟨r.target, (s.engine.execute r.content r.viewport?).1⟩
  | .pollAt now => (s.engine.pollAt now).1
  | .flush => s.engine.flush.1
  | _ => none

def deliveries (s : Session) (calls : List Call) : List Engine.Delivery :=
  (Run.history (fun s call => (s.delivery? call, (s.perform call).2)) s calls).filterMap (·.output)

theorem taken_serves (s : Session) {taken : Option Pending × Scheduler} {r : Request}
    (served : taken.1.map (·.request) = some r) :
    (s.engine.deliver taken).1 =
        some ⟨r.target, (s.engine.execute r.content r.viewport?).1⟩ ∧
      (s.deliver (s.engine.deliver taken)).1 = some (s.highlight r).1 ∧
      ∃ scheduler, (s.deliver (s.engine.deliver taken)).2 =
        (s.highlight r).2.withScheduler scheduler := by
  obtain ⟨pending?, scheduler⟩ := taken
  obtain ⟨p, rfl, rfl⟩ := Option.map_eq_some_iff.mp served
  rw [deliver_some, Engine.deliver_some]
  exact ⟨rfl, rfl, _, rfl⟩

/-- To serve a request is to highlight it, whatever becomes of the scheduler. -/
theorem perform_serves (s : Session) (call : Call) {r : Request} (served : s.served? call = some r) :
    s.delivery? call = some ⟨r.target, (s.engine.execute r.content r.viewport?).1⟩ ∧
      (s.perform call).1.pass? = some (s.highlight r).1 ∧
      ∃ scheduler, (s.perform call).2 = (s.highlight r).2.withScheduler scheduler := by
  cases call with
  | highlight r' =>
      cases served
      exact ⟨rfl, rfl, _, rfl⟩
  | pollAt now => exact s.taken_serves served
  | flush => exact s.taken_serves served
  | schedule | update | clearCache | destroy => cases served

theorem taken_idles (s : Session) {taken : Option Pending × Scheduler}
    (missed : taken.1.map (·.request) = none) : (s.engine.deliver taken).1 = none ∧
      s.deliver (s.engine.deliver taken) = (none, s.withScheduler taken.2) := by
  obtain ⟨pending?, scheduler⟩ := taken
  obtain rfl : pending? = none := Option.map_eq_none_iff.mp missed
  exact ⟨rfl, rfl⟩

structure Rests (s s' : Session) : Prop where
  targets : s'.targets = s.targets
  passes : s'.engine.passes = s.engine.passes
  sound : ∀ capacity, s.engine.Sound capacity → s'.engine.Sound capacity

theorem rests_withScheduler (s : Session) (scheduler : Scheduler) :
    s.Rests (s.withScheduler scheduler) :=
  ⟨rfl, rfl, fun _ sound => sound.withScheduler scheduler⟩

theorem perform_idles (s : Session) (call : Call) (unserved : s.served? call = none) :
    s.delivery? call = none ∧ (s.perform call).1.pass? = none ∧ s.Rests (s.perform call).2 := by
  cases call with
  | highlight r => cases unserved
  | pollAt now =>
      obtain ⟨undelivered, idle⟩ := s.taken_idles unserved
      rw [perform, pollAt, Engine.pollAt, idle]
      exact ⟨undelivered, rfl, s.rests_withScheduler _⟩
  | flush =>
      obtain ⟨undelivered, idle⟩ := s.taken_idles unserved
      rw [perform, flush, Engine.flush, idle]
      exact ⟨undelivered, rfl, s.rests_withScheduler _⟩
  | schedule r now =>
      refine ⟨rfl, rfl, ?_⟩
      simp only [perform, schedule, Engine.schedule]
      split
      · exact s.rests_withScheduler _
      · exact s.rests_withScheduler _
  | update u =>
      refine ⟨rfl, rfl, rfl, ?_, fun _ sound => sound.updateOptions u⟩
      simp only [perform, Engine.updateOptions]
      split <;> rfl
  | clearCache => exact ⟨rfl, rfl, rfl, rfl, fun _ sound => sound.clearCache⟩
  | destroy => exact ⟨rfl, rfl, rfl, s.engine.destroy_keeps.2.1, fun _ sound => sound.destroy⟩

def markupsFor (name : String) (passes : List Engine.Delivery) : List Text :=
  passes.filterMap (·.markupFor? name)

def shown (passes : List Engine.Delivery) : Nat := passes.countP (·.pass.status.shows)

theorem shown_concat (passes : List Engine.Delivery) (d : Engine.Delivery) :
    shown (passes ++ [d]) = shown passes + d.pass.status.shows.toNat := by
  rw [shown, List.countP_append, shown, List.countP_singleton]
  cases d.pass.status.shows <;> rfl

theorem markupsFor_concat (name : String) (passes : List Engine.Delivery) (d : Engine.Delivery) :
    markupsFor name (passes ++ [d]) = markupsFor name passes ++ (d.markupFor? name).toList := by
  rw [markupsFor, List.filterMap_append, markupsFor]
  cases found : d.markupFor? name with
  | none => simp [found]
  | some markup => simp [found]

/-- What can be told of a session from the passes that were made. -/
structure Books (capacity : Nat) (passes : List Engine.Delivery) (s : Session) : Prop where
  sound : s.engine.Sound capacity
  ended : ∀ d ∈ passes, d.pass.status = .skipped ∨ d.pass.status.shows = true
  counted : s.engine.passes = shown passes
  written : s.targets.totalWrites = shown passes
  buffers : ∀ name, s.targets.get name =
    ⟨(markupsFor name passes).getLast?.getD [], false, (markupsFor name passes).length⟩

namespace Books

variable {capacity : Nat} {passes : List Engine.Delivery} {s s' : Session}

theorem create (o : Options) : Books o.cacheCapacity.toNat [] (create o) where
  sound := .create o
  ended := nofun
  counted := rfl
  written := rfl
  buffers := fun _ => rfl

theorem rest (books : Books capacity passes s) (rests : s.Rests s') : Books capacity passes s' where
  sound := rests.sound capacity books.sound
  ended := books.ended
  counted := rests.passes.trans books.counted
  written := rests.targets.symm ▸ books.written
  buffers := rests.targets.symm ▸ books.buffers

theorem skip (books : Books capacity passes s) (target : String) {e : Engine}
    (sound : e.Sound capacity) (counted : e.passes = s.engine.passes) :
    Books capacity (passes ++ [⟨target, ⟨.skipped, .none⟩⟩]) ⟨e, s.targets⟩ where
  sound := sound
  ended := List.forall_mem_append.mpr
    ⟨books.ended, List.forall_mem_singleton.mpr (Or.inl rfl)⟩
  counted := by
    rw [shown_concat]
    exact counted.trans books.counted
  written := by
    rw [shown_concat]
    exact books.written
  buffers := by
    intro name
    have silent : Engine.Delivery.markupFor? name ⟨target, ⟨.skipped, .none⟩⟩ = none :=
      ite_self none
    rw [markupsFor_concat, silent, Option.toList_none, List.append_nil]
    exact books.buffers name

theorem write (books : Books capacity passes s) (target : String) (markup : Text)
    {status : PassStatus} (shows : status.shows = true) {e : Engine}
    (sound : e.Sound capacity) (counted : e.passes = s.engine.passes + 1) :
    Books capacity (passes ++ [⟨target, ⟨status, .write markup⟩⟩])
      ⟨e, s.targets.update target (RenderTarget.write markup)⟩ where
  sound := sound
  ended := List.forall_mem_append.mpr
    ⟨books.ended, List.forall_mem_singleton.mpr (Or.inr shows)⟩
  counted := by
    rw [shown_concat, shows, ← books.counted]
    exact counted
  written := by
    rw [shown_concat, shows, s.targets.totalWrites_update _ _ fun _ => rfl, books.written]
    rfl
  buffers := by
    intro name
    rw [markupsFor_concat, Engine.Delivery.markupFor?]
    by_cases here : target = name
    · subst here
      rw [if_pos rfl, s.targets.get_update, books.buffers]
      simp [RenderTarget.write, Pass.markup?]
    · rw [if_neg here, s.targets.get_update_of_ne (Ne.symm here), Option.toList_none,
        List.append_nil]
      exact books.buffers name

theorem enter (books : Books capacity passes s) (r : Request) :
    Books capacity
      (passes ++ [⟨r.target, (s.engine.execute r.content r.viewport?).1⟩]) (s.highlight r).2 := by
  obtain ⟨obtains, counted, sound⟩ := books.sound.execute r
  have left : (s.highlight r).2 = ⟨(s.engine.execute r.content r.viewport?).2,
      s.targets.receive r.target (s.engine.execute r.content r.viewport?).1.effect⟩ := rfl
  rw [left]
  generalize s.engine.execute r.content r.viewport? = outcome at obtains counted sound
  obtain ⟨pass, engine⟩ := outcome
  rcases obtains.skipped_or_shown with rfl | ⟨status, markup, shows, rfl⟩
  · exact books.skip r.target sound counted
  · rw [shows] at counted
    exact books.write r.target markup shows sound counted

theorem perform (books : Books capacity passes s) (call : Call) :
    Books capacity (passes ++ (s.delivery? call).toList) (s.perform call).2 := by
  cases served : s.served? call with
  | none =>
      obtain ⟨undelivered, -, rests⟩ := s.perform_idles call served
      rw [undelivered, Option.toList_none, List.append_nil]
      exact books.rest rests
  | some r =>
      obtain ⟨delivered, -, scheduler, left⟩ := s.perform_serves call served
      rw [delivered, left]
      exact (books.enter r).rest ((s.highlight r).2.rests_withScheduler scheduler)

end Books

theorem books_after (o : Options) (calls : List Call) :
    Books o.cacheCapacity.toNat ((create o).deliveries calls) ((create o).after calls) := by
  refine Run.keeps (fun s call => (s.delivery? call, (s.perform call).2))
    (fun history s => Books o.cacheCapacity.toNat (history.filterMap (·.output)) s)
    (fun before s call books => ?_) (.create o) calls
  have entered := books.perform call
  rw [List.filterMap_append]
  cases delivered : s.delivery? call with
  | none => rwa [delivered] at entered
  | some d => rwa [delivered] at entered

theorem pass?_perform (s : Session) (call : Call) :
    (s.perform call).1.pass? = (s.delivery? call).map (·.pass.status) := by
  cases served : s.served? call with
  | none =>
      obtain ⟨undelivered, silent, -⟩ := s.perform_idles call served
      rw [undelivered, silent]
      rfl
  | some r =>
      obtain ⟨delivered, answered, -⟩ := s.perform_serves call served
      rw [delivered, answered]
      rfl

/-- What the calls of a run answer is how the passes of the run ended. -/
theorem statuses_history (s : Session) (calls : List Call) :
    (Run.history perform s calls).filterMap (·.output.pass?) =
      (s.deliveries calls).map (·.pass.status) := by
  induction calls generalizing s with
  | nil => rfl
  | cons call later ih =>
      have onward := ih (s.perform call).2
      rw [deliveries] at onward ⊢
      rw [Run.history, Run.history, List.filterMap_cons, List.filterMap_cons, s.pass?_perform call]
      cases s.delivery? call with
      | none => exact onward
      | some d => exact congrArg (d.pass.status :: ·) onward

/-- The books of an engine are in order after every run of calls. What a pass comes to
is settled by whether the engine works and the viewport is upright: it shows markup, from
the cache or rendered, or it is skipped; none fails. The engine has counted the passes
that showed markup, and its targets have seen as many writes: each shows what such a pass
wrote to it last, and none is hidden. The cache is never over its capacity. -/
theorem passes_accounted (o : Options) (calls : List Call) :
    let s := (create o).after calls
    let passes := (create o).deliveries calls
    ((Run.history perform (create o) calls).filterMap (·.output.pass?) =
        passes.map (·.pass.status) ∧
      (∀ d ∈ passes, d.pass.status ≠ .failed) ∧
      (∀ call, s.served? call = none → (s.perform call).1.pass? = none) ∧
      ∀ call r, s.served? call = some r → ∃ pass,
        s.delivery? call = some ⟨r.target, pass⟩ ∧ s.engine.Obtains r pass ∧
        (s.perform call).1.pass? = some pass.status ∧
        (pass.status = .rendered ∨ pass.status = .cached ↔ s.engine.Admits r) ∧
        (pass.status = .skipped ↔ ¬ s.engine.Admits r)) ∧
    s.engine.passes = shown passes ∧ s.targets.totalWrites = shown passes ∧
    (∀ name, s.targets.get name =
      ⟨(markupsFor name passes).getLast?.getD [], false, (markupsFor name passes).length⟩) ∧
    s.engine.cache.capacity = o.cacheCapacity.toNat ∧
    s.engine.cache.size ≤ s.engine.cache.capacity := by
  intro s passes
  have books : Books o.cacheCapacity.toNat passes s := books_after o calls
  obtain ⟨capacity, size⟩ := books.sound.size_le
  refine ⟨⟨statuses_history _ calls, ?unfailed, ?idle, ?serves⟩, books.counted, books.written,
    books.buffers, capacity, capacity.symm ▸ size⟩
  case unfailed =>
    intro d member failed
    have ended := books.ended d member
    rw [failed] at ended
    rcases ended with skipped | shows
    · cases skipped
    · cases shows
  case idle => exact fun call unserved => (s.perform_idles call unserved).2.1
  case serves =>
    intro call r served
    obtain ⟨delivered, answered, -⟩ := s.perform_serves call served
    obtain ⟨obtains, -⟩ := books.sound.execute r
    exact ⟨_, delivered, obtains, answered, obtains.shown_iff, obtains.skipped_iff⟩

/-- Of two requests for one text the second is served from the cache, an inverted
viewport is refused, and a request that waited is served like any other. -/
theorem passes_accounted_mixed :
    let request (target : String) : Request := ⟨"*a*".toList, target, none⟩
    let inverted : Request := ⟨"*a*".toList, "note", some ⟨9, 3⟩⟩
    let calls : List Call := [.highlight (request "note"), .schedule (request "pane") 5,
      .highlight inverted, .flush]
    ((create {}).deliveries calls).map (·.pass.status) = [.rendered, .skipped, .cached] ∧
      ((create {}).after calls).engine.passes = 2 ∧
      ((create {}).after calls).targets.totalWrites = 2 ∧
      ((create {}).after calls).targets.get "pane" = ((create {}).after calls).targets.get "note" ∧
      (((create {}).after calls).targets.get "note").hidden = false := by
  intro request inverted calls
  obtain ⟨-, counted, written, buffers, -⟩ := passes_accounted {} calls
  have statuses : ((create {}).deliveries calls).map (·.pass.status) =
      [.rendered, .skipped, .cached] := by decide +kernel
  have both : shown ((create {}).deliveries calls) = 2 := by decide +kernel
  have same : markupsFor "pane" ((create {}).deliveries calls) =
      markupsFor "note" ((create {}).deliveries calls) := by decide +kernel
  refine ⟨statuses, counted.trans both, written.trans both, ?_, ?_⟩
  · rw [buffers, buffers, same]
  · rw [buffers]

end Session

end MarkdownHighlight
