import MarkdownHighlight.Proofs.Engine.Docket

/-!
Completions, told from the history of an engine. A handle that a request was given
stays open for as long as its burst lasts, that is until a scheduled pass or the end
of the engine resolves it; from then on its status stands. Requests of one burst
share their handle, and no two bursts do.
-/

namespace MarkdownHighlight.Session

abbrev History := List (Exchange Call Reply)

def History.handles (history : History) : List Handle := history.filterMap (·.output.handle?)

def History.destroys (history : History) : Prop := .destroy ∈ history.map (·.input)

/-- The burst of a request, which came to a working engine, is not resolved yet. -/
structure Lasts (before later : History) : Prop where
  working : ¬ before.destroys
  unresolved : ∀ e ∈ later, e.outcome? = none

theorem lasts_snoc {before later : History} {e : Exchange Call Reply} :
    Lasts before (later ++ [e]) ↔ Lasts before later ∧ e.outcome? = none := by
  constructor
  · intro lasts
    have each := List.forall_mem_append.mp lasts.unresolved
    exact ⟨⟨lasts.working, each.1⟩, each.2 e (List.mem_singleton_self e)⟩
  · rintro ⟨lasts, missed⟩
    refine ⟨lasts.working, List.forall_mem_append.mpr ⟨lasts.unresolved, ?_⟩⟩
    exact List.forall_mem_singleton.mpr missed

structure Accounts (history : History) (d : Docket) : Prop where
  settled : d.Settled
  handles : ∀ handle, handle ∈ history.handles ↔ handle < d.completions.statuses.length
  destroyed : d.destroyed = true ↔ history.destroys
  /-- A handle is open as long as the burst lasts that it was given out for. -/
  lasts : ∀ before e later handle, history = before ++ e :: later →
    e.output.handle? = some handle →
      (d.completions.status? handle = none ↔ Lasts before later)
  /-- Requests share their handle as long as the burst lasts, and not beyond. -/
  shared : ∀ before e between e' later handle handle',
    history = (before ++ e :: between) ++ e' :: later →
      e.output.handle? = some handle → e'.output.handle? = some handle' →
        (handle' = handle ↔ Lasts before between)

theorem snoc_cases {history before later : History} {last e : Exchange Call Reply}
    (split : history ++ [last] = before ++ e :: later) :
    (history = before ∧ last = e ∧ later = []) ∨
      ∃ earlier, history = before ++ e :: earlier ∧ later = earlier ++ [last] := by
  rcases List.eq_nil_or_concat later with rfl | ⟨earlier, other, rfl⟩
  · obtain ⟨rfl, same⟩ := List.append_inj' split rfl
    cases same
    exact Or.inl ⟨rfl, rfl, rfl⟩
  · rw [List.concat_eq_append] at split ⊢
    obtain ⟨rfl, same⟩ := List.append_inj'
      (split.trans (List.append_assoc before (e :: earlier) [other]).symm) rfl
    cases same
    exact Or.inr ⟨earlier, rfl, rfl⟩

namespace Accounts

variable {history : History} {d d' : Docket} {call : Call} {reply : Reply}

theorem known (accounts : Accounts history d) {before later : History} {e : Exchange Call Reply}
    {handle : Handle} (split : history = before ++ e :: later)
    (given : e.output.handle? = some handle) : handle < d.completions.statuses.length := by
  rw [← accounts.handles, split]
  exact List.mem_filterMap.mpr ⟨e, List.mem_append_right _ List.mem_cons_self, given⟩

theorem open_iff (accounts : Accounts history d) {handle : Handle}
    (given : handle ∈ history.handles) :
    d.completions.status? handle = none ↔ d.waiting? = some handle := by
  rw [← accounts.settled.waiting, Completions.Open]
  exact (and_iff_right ((accounts.handles handle).mp given)).symm

theorem open_unique (accounts : Accounts history d) {handle other : Handle}
    (given : handle ∈ history.handles) (given' : other ∈ history.handles)
    (unresolved : d.completions.status? handle = none)
    (unresolved' : d.completions.status? other = none) : handle = other := by
  rw [accounts.open_iff given] at unresolved
  rw [accounts.open_iff given', unresolved] at unresolved'
  exact Option.some.inj unresolved'

theorem exists_open_iff (accounts : Accounts history d) :
    (∃ handle ∈ history.handles, d.completions.status? handle = none) ↔ d.waiting?.isSome := by
  rw [Option.isSome_iff_exists]
  refine exists_congr fun handle => ⟨fun both => (accounts.open_iff both.1).mp both.2, ?_⟩
  intro waits
  have given := (accounts.handles handle).mpr ((accounts.settled.waiting handle).mpr waits).1
  exact ⟨given, (accounts.open_iff given).mpr waits⟩

theorem turn (accounts : Accounts history d) (turn : d.Turn call reply d') :
    Accounts (history ++ [⟨call, reply⟩]) d' where
  settled := turn.settled accounts.settled
  handles := by
    intro handle
    rw [turn.known_iff accounts.settled, ← accounts.handles, History.handles,
      List.filterMap_append, List.mem_append]
    simp [History.handles]
  destroyed := by
    rw [turn.destroyed_iff, accounts.destroyed]
    simp [History.destroys, eq_comm]
  lasts := by
    intro before e later handle split given
    rcases snoc_cases split with ⟨rfl, rfl, rfl⟩ | ⟨earlier, here, rfl⟩
    · have begins : Lasts history [] ↔ ¬ d.destroyed = true := by
        rw [accounts.destroyed]
        exact ⟨Lasts.working, fun working => ⟨working, nofun⟩⟩
      rw [turn.status?_of_given accounts.settled given, begins]
      cases d.destroyed <;> simp
    · have known := accounts.known here given
      rw [lasts_snoc, ← accounts.lasts before e earlier handle here given,
        turn.status?_of_known accounts.settled known]
      split
      case isTrue waits =>
        exact (and_iff_right ((accounts.settled.waiting handle).mpr waits).2).symm
      case isFalse idle =>
        have resolved : ¬ d.completions.status? handle = none :=
          fun none => idle ((accounts.settled.waiting handle).mp ⟨known, none⟩)
        exact ⟨fun none => absurd none resolved, fun both => absurd both.1 resolved⟩
  shared := by
    intro before e between e' later handle handle' split given given'
    rcases snoc_cases split with ⟨here, rfl, rfl⟩ | ⟨earlier, here, rfl⟩
    · rw [turn.given_iff accounts.settled given' (accounts.known here given),
        accounts.lasts before e between handle here given]
    · exact accounts.shared before e between e' earlier handle handle' here given given'

theorem fresh : Accounts [] ⟨none, .empty, false⟩ where
  settled := by
    refine ⟨fun handle => ⟨fun opened => ?_, nofun⟩, nofun⟩
    exact absurd opened.1 (Nat.not_lt_zero handle)
  handles := fun handle => iff_of_false nofun (Nat.not_lt_zero handle)
  destroyed := iff_of_false nofun nofun
  lasts := by simp
  shared := by simp

end Accounts

theorem rendering_deliver (s : Session) (awake : s.engine.rendering = false)
    (taken : Option Pending × Scheduler) :
    (s.deliver (s.engine.deliver taken)).2.engine.rendering = false := by
  obtain ⟨_ | p, scheduler⟩ := taken
  · exact awake
  · rw [deliver_some]
    exact Engine.rendering_execute _ _ _ awake

/-- The mark of a running pass is never left behind. -/
theorem rendering_perform (s : Session) (awake : s.engine.rendering = false) (call : Call) :
    (s.perform call).2.engine.rendering = false := by
  cases call with
  | highlight r => exact Engine.rendering_execute _ _ _ awake
  | pollAt now => exact s.rendering_deliver awake _
  | flush => exact s.rendering_deliver awake _
  | clearCache => exact awake
  | schedule r now =>
      simp only [perform, schedule, Engine.schedule, Prod.map, id]
      split <;> exact awake
  | update u =>
      simp only [perform, Engine.updateOptions]
      split <;> exact awake
  | destroy =>
      simp only [perform, Engine.destroy]
      split <;> exact awake

theorem state_of_awake (s : Session) (awake : s.engine.rendering = false) : s.engine.state =
    if s.engine.scheduler.isPending then .scheduled else .idle := by
  rw [Engine.state, awake]
  rfl

theorem turn_of_settled (s : Session) (settled : s.engine.docket.Settled) (call : Call) :
    s.engine.docket.Turn call (s.perform call).1 (s.perform call).2.engine.docket :=
  s.perform_turn (fun gone => Option.map_eq_none_iff.mp (settled.stopped gone)) call

theorem accounts_history (s : Session) (fresh : s.engine.docket = ⟨none, .empty, false⟩)
    (calls : List Call) :
    Accounts (Run.history perform s calls) (s.after calls).engine.docket :=
  Run.keeps perform (fun history s => Accounts history s.engine.docket)
    (fun _ s call accounts => accounts.turn (s.turn_of_settled accounts.settled call))
    (fresh ▸ Accounts.fresh) calls

theorem rendering_after (s : Session) (awake : s.engine.rendering = false) (calls : List Call) :
    (s.after calls).engine.rendering = false :=
  Run.keeps perform (fun _ s => s.engine.rendering = false)
    (fun _ s call awake => s.rendering_perform awake call) awake calls

theorem status?_after (s : Session) (settled : s.engine.docket.Settled) {handle : Handle}
    {status : PassStatus} (resolved : s.engine.docket.completions.status? handle = some status)
    (calls : List Call) :
    (s.after calls).engine.docket.completions.status? handle = some status := by
  have kept := Run.keeps perform (fun _ s => s.engine.docket.Settled ∧
    s.engine.docket.completions.status? handle = some status) ?step ⟨settled, resolved⟩ calls
  · exact kept.2
  · rintro - s call ⟨settled, resolved⟩
    have turn := s.turn_of_settled settled call
    exact ⟨turn.settled settled, turn.status?_kept settled resolved⟩

/-- Completions resolve exactly once, whatever the calls on an engine and however the
clock goes. At most one handle that was given out is open, and one is just when a
request waits. Handles are shared within a burst, and not beyond. What waits is served
when it is due, and the pass resolves its handle with its own status; the end of the
engine cancels it, a destroyed engine gives out handles that are skipped, and a status
stands. -/
theorem completions_resolve (o : Options) (grammar : List Pattern) (targets : TargetStore)
    (calls : List Call) :
    let start : Session := ⟨{ Engine.create o with grammar? := some grammar }, targets⟩
    let history : History := Run.history perform start calls
    let s := start.after calls
    let waiting? := s.engine.scheduler.pending?.map (·.completion)
    let status? (s : Session) := s.engine.scheduler.completions.status?
    ((∀ handle ∈ history.handles, ∀ other ∈ history.handles,
        status? s handle = none → status? s other = none → handle = other) ∧
      ((∃ handle ∈ history.handles, status? s handle = none) ↔ s.engine.scheduler.isPending) ∧
      (s.engine.deadline?.isSome ↔ s.engine.scheduler.isPending) ∧
      (s.engine.state = .scheduled ↔ s.engine.scheduler.isPending) ∧
      s.engine.state ≠ .rendering) ∧
    ((∀ before e later handle, history = before ++ e :: later → e.output = .handle handle →
        (waiting? = some handle ↔ Lasts before later) ∧
        (status? s handle = none ↔ Lasts before later)) ∧
      ∀ before e between e' later handle handle',
        history = (before ++ e :: between) ++ e' :: later →
        e.output = .handle handle → e'.output = .handle handle' →
          (handle' = handle ↔ Lasts before between)) ∧
    ((∀ p, s.engine.scheduler.pending? = some p → ∀ call,
        call = .flush ∨ (∃ now, call = .pollAt now ∧ p.deadline ≤ now) →
        ∃ status, (s.perform call).1 = .delivered (some status)) ∧
      (∀ call status, (s.perform call).1 = .delivered (some status) →
        ∃ handle, waiting? = some handle ∧ ∀ other ∈ history.handles,
          status? (s.perform call).2 other =
            if other = handle then some status else status? s other) ∧
      (∀ handle, waiting? = some handle → ∀ other ∈ history.handles,
        status? (s.perform .destroy).2 other =
          if other = handle then some .cancelled else status? s other) ∧
      (s.engine.destroyed = true → ∀ request now, ∃ handle,
        (s.perform (.schedule request now)).1 = .handle handle ∧ handle ∉ history.handles ∧
        status? (s.perform (.schedule request now)).2 handle = some .skipped ∧
        ∀ other ∈ history.handles,
          status? (s.perform (.schedule request now)).2 other = status? s other)) ∧
    ∀ handle status, status? s handle = some status →
      ∀ later, status? (s.after later) handle = some status := by
  intro start history s waiting? status?
  have accounts : Accounts history s.engine.docket := start.accounts_history rfl calls
  have awake : s.engine.rendering = false := start.rendering_after rfl calls
  have settled := accounts.settled
  refine ⟨⟨?unique, ?waiting, ?deadline, ?scheduled, ?awake⟩, ⟨?burst, ?shared⟩,
    ⟨?due, ?serves, ?drops, ?refuses⟩, ?stands⟩
  case unique => exact fun handle given other given' => accounts.open_unique given given'
  case waiting =>
    refine accounts.exists_open_iff.trans ?_
    rw [Engine.docket, Option.isSome_map]
    rfl
  case deadline =>
    rw [Engine.deadline?, Scheduler.deadline?, Option.isSome_map]
    rfl
  case scheduled =>
    rw [s.state_of_awake awake]
    split <;> simp_all
  case awake =>
    rw [s.state_of_awake awake]
    split <;> decide
  case burst =>
    intro before e later handle split output
    have given : e.output.handle? = some handle := by
      rw [output]
      rfl
    have lasts := accounts.lasts before e later handle split given
    have member := (accounts.handles handle).mpr (accounts.known split given)
    exact ⟨(accounts.open_iff member).symm.trans lasts, lasts⟩
  case shared =>
    intro before e between e' later handle handle' split output output'
    refine accounts.shared before e between e' later handle handle' split ?_ ?_
    · rw [output]
      rfl
    · rw [output']
      rfl
  case due =>
    intro p waits call due
    rw [s.perform_of_due waits call due]
    exact ⟨_, rfl⟩
  case serves =>
    intro call status delivered
    have turn := s.turn_of_settled settled call
    rw [delivered] at turn
    obtain ⟨lives, handle, waits⟩ := turn.waits_of_served rfl
    refine ⟨handle, waits, fun other given => ?_⟩
    exact turn.status?_of_outcome settled waits (if_neg lives) ((accounts.handles other).mp given)
  case drops =>
    intro handle waits other given
    have turn := s.turn_of_settled settled .destroy
    exact turn.status?_of_outcome settled waits rfl ((accounts.handles other).mp given)
  case refuses =>
    intro gone request now
    have turn := s.turn_of_settled settled (.schedule request now)
    refine ⟨(s.schedule request now).1, rfl, ?_, ?_, fun other given => ?_⟩
    · rw [accounts.handles]
      exact turn.new_of_destroyed settled gone rfl
    · exact (turn.status?_of_given settled rfl).trans (if_pos gone)
    · refine (turn.status?_of_known settled ((accounts.handles other).mp given)).trans (if_neg ?_)
      rw [settled.stopped gone]
      exact (Option.some_ne_none other).symm
  case stands => exact fun handle status resolved later => s.status?_after settled resolved later

/-- Two requests share a handle, the next one has another. The status of the first
stands, and what waits at the end of the engine is cancelled. -/
theorem completions_resolve_flushed :
    let request : Request := ⟨"*a*".toList, "note", none⟩
    let calls : List Call := [.schedule request 5, .schedule request 0, .flush, .schedule request 9]
    let start : Session := ⟨{ Engine.create {} with grammar? := some [] }, .empty⟩
    let s := start.after calls
    (Run.history perform start calls).map (·.output) =
      [.handle 0, .handle 0, .delivered (some .rendered), .handle 1] ∧
    (∀ later, (s.after later).engine.scheduler.completions.status? 0 = some .rendered) ∧
    (s.perform .destroy).2.engine.scheduler.completions.status? 1 = some .cancelled := by
  intro request calls start s
  obtain ⟨-, -, ⟨-, -, drops, -⟩, stands⟩ := completions_resolve {} [] .empty calls
  exact ⟨rfl, stands 0 .rendered rfl, drops 1 rfl 1 (by decide)⟩

end MarkdownHighlight.Session
