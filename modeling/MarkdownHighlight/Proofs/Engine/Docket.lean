import MarkdownHighlight.Proofs.Engine.Frame
import MarkdownHighlight.Proofs.Run.History

/-!
What the holder of a handle sees. An engine is looked at through its docket: the
handle that waits, the ledger of all handles, and whether the engine still works.
Each call takes one turn of the docket, and a turn keeps one thing up: the handle
that waits is the only one that is open.
-/

namespace MarkdownHighlight

namespace Completions

variable (c : Completions)

def Open (handle : Handle) : Prop := handle < c.statuses.length ∧ c.status? handle = none

theorem status?_issue (status? : Option PassStatus) (handle : Handle) :
    (c.issue status?).2.status? handle =
      if handle = c.statuses.length then status? else c.status? handle := by
  simp only [Completions.status?, issue]
  split
  case isTrue last => rw [last, List.getElem?_concat_length]; rfl
  case isFalse other =>
    rw [List.getElem?_append]
    split
    · rfl
    · rename_i outside
      have past := Nat.lt_of_le_of_ne (Nat.not_lt.mp outside) (Ne.symm other)
      rw [List.getElem?_eq_none (Nat.not_lt.mp outside),
        List.getElem?_eq_none (Nat.sub_pos_of_lt past)]

theorem length_issue (status? : Option PassStatus) :
    (c.issue status?).2.statuses.length = c.statuses.length + 1 := by
  simp [issue]

theorem status?_resolve {handle : Handle} (known : handle < c.statuses.length)
    (status : PassStatus) (other : Handle) : (c.resolve handle status).status? other =
      if other = handle then some status else c.status? other := by
  simp only [Completions.status?, resolve, List.getElem?_set]
  split
  case isTrue same => rw [if_pos same.symm]; rfl
  case isFalse differ => rw [if_neg (Ne.symm differ)]

theorem length_resolve (handle : Handle) (status : PassStatus) :
    (c.resolve handle status).statuses.length = c.statuses.length := by
  simp [resolve]

theorem known_of_resolved {handle : Handle} {status : PassStatus}
    (resolved : c.status? handle = some status) : handle < c.statuses.length := by
  rw [← Nat.not_le]
  intro outside
  rw [Completions.status?, List.getElem?_eq_none outside] at resolved
  cases resolved

theorem open_issue_none (handle : Handle) :
    (c.issue none).2.Open handle ↔ handle = c.statuses.length ∨ c.Open handle := by
  rw [Open, Open, status?_issue, length_issue, Nat.lt_succ_iff_lt_or_eq]
  split
  case isTrue last => exact ⟨fun _ => Or.inl last, fun _ => ⟨Or.inr last, rfl⟩⟩
  case isFalse other => rw [or_iff_left other, or_iff_right other]

theorem open_issue_some (status : PassStatus) (handle : Handle) :
    (c.issue (some status)).2.Open handle ↔ c.Open handle := by
  rw [Open, Open, status?_issue, length_issue, Nat.lt_succ_iff_lt_or_eq]
  split
  case isTrue last => exact ⟨nofun, fun opened => absurd last (Nat.ne_of_lt opened.1)⟩
  case isFalse other => rw [or_iff_left other]

theorem open_resolve {handle : Handle} (known : handle < c.statuses.length)
    (status : PassStatus) (other : Handle) :
    (c.resolve handle status).Open other ↔ other ≠ handle ∧ c.Open other := by
  rw [Open, Open, c.status?_resolve known, length_resolve]
  split <;> simp_all

end Completions

def Reply.handle? : Reply → Option Handle
  | .handle given => some given
  | _ => none

def Reply.served? : Reply → Option PassStatus
  | .delivered status? => status?
  | _ => none

def Exchange.outcome? (e : Exchange Call Reply) : Option PassStatus :=
  if e.input = .destroy then some .cancelled else e.output.served?

/-- An engine as the holders of its handles see it. -/
structure Docket where
  waiting? : Option Handle
  completions : Completions
  destroyed : Bool

def Engine.docket (e : Engine) : Docket :=
  ⟨e.scheduler.pending?.map (·.completion), e.scheduler.completions, e.destroyed⟩

namespace Docket

structure Settled (d : Docket) : Prop where
  waiting : ∀ handle, d.completions.Open handle ↔ d.waiting? = some handle
  stopped : d.destroyed = true → d.waiting? = none

inductive Turn : Docket → Call → Reply → Docket → Prop
  | rests {d : Docket} {call : Call} {reply : Reply} (lives : call ≠ .destroy)
      (silent : reply.handle? = none) (missed : reply.served? = none) : Turn d call reply d
  | opens (c : Completions) (request : Request) (now : Nat) :
      Turn ⟨none, c, false⟩ (.schedule request now) (.handle (c.issue none).1)
        ⟨some (c.issue none).1, (c.issue none).2, false⟩
  | joins (handle : Handle) (c : Completions) (request : Request) (now : Nat) :
      Turn ⟨some handle, c, false⟩ (.schedule request now) (.handle handle)
        ⟨some handle, c, false⟩
  | refuses (c : Completions) (request : Request) (now : Nat) :
      Turn ⟨none, c, true⟩ (.schedule request now) (.handle (c.issue (some .skipped)).1)
        ⟨none, (c.issue (some .skipped)).2, true⟩
  | serves (handle : Handle) (c : Completions) {call : Call} (lives : call ≠ .destroy)
      (status : PassStatus) : Turn ⟨some handle, c, false⟩ call (.delivered (some status))
        ⟨none, c.resolve handle status, false⟩
  | drops (handle : Handle) (c : Completions) : Turn ⟨some handle, c, false⟩ .destroy .done
      ⟨none, c.resolve handle .cancelled, true⟩
  | closes (c : Completions) (destroyed : Bool) : Turn ⟨none, c, destroyed⟩ .destroy .done
      ⟨none, c, true⟩

namespace Turn

variable {d d' : Docket} {call : Call} {reply : Reply} {handle other : Handle}

theorem settled (turn : d.Turn call reply d') (settled : d.Settled) : d'.Settled := by
  cases turn with
  | rests => exact settled
  | joins => exact settled
  | opens c =>
      refine ⟨fun handle => ?_, nofun⟩
      rw [c.open_issue_none, settled.waiting]
      simp [Completions.issue, eq_comm]
  | refuses c =>
      refine ⟨fun handle => ?_, fun _ => rfl⟩
      rw [c.open_issue_some]
      exact settled.waiting handle
  | serves waiting c =>
      have known := ((settled.waiting waiting).mpr rfl).1
      refine ⟨fun handle => ?_, nofun⟩
      rw [c.open_resolve known, settled.waiting]
      simp [eq_comm]
  | drops waiting c =>
      have known := ((settled.waiting waiting).mpr rfl).1
      refine ⟨fun handle => ?_, fun _ => rfl⟩
      rw [c.open_resolve known, settled.waiting]
      simp [eq_comm]
  | closes => exact ⟨settled.waiting, fun _ => rfl⟩

theorem destroyed_iff (turn : d.Turn call reply d') :
    d'.destroyed = true ↔ d.destroyed = true ∨ call = .destroy := by
  cases turn <;> simp [*]

theorem known_iff (turn : d.Turn call reply d') (settled : d.Settled) :
    handle < d'.completions.statuses.length ↔
      handle < d.completions.statuses.length ∨ reply.handle? = some handle := by
  cases turn with
  | rests lives silent => simp [silent]
  | opens c | refuses c =>
      rw [c.length_issue, Nat.lt_succ_iff_lt_or_eq]
      simp [Completions.issue, Reply.handle?, eq_comm]
  | joins waiting c =>
      have known := ((settled.waiting waiting).mpr rfl).1
      simp only [Reply.handle?, Option.some.injEq]
      exact ⟨Or.inl, fun either => either.elim id fun same => same ▸ known⟩
  | serves | drops | closes => simp [Completions.length_resolve, Reply.handle?]

/-- The handle that waits takes the outcome of the call, and no other one changes. -/
theorem status?_of_known (turn : d.Turn call reply d') (settled : d.Settled)
    (known : handle < d.completions.statuses.length) :
    d'.completions.status? handle = if d.waiting? = some handle
      then Exchange.outcome? ⟨call, reply⟩ else d.completions.status? handle := by
  have unresolved : d.waiting? = some handle → d.completions.status? handle = none :=
    fun waits => ((settled.waiting handle).mpr waits).2
  cases turn with
  | rests lives silent missed =>
      rw [Exchange.outcome?, if_neg lives, missed]
      split
      case isTrue waits => exact unresolved waits
      case isFalse => rfl
  | opens c | refuses c =>
      rw [c.status?_issue, if_neg (Nat.ne_of_lt known)]
      rfl
  | joins waiting c =>
      split
      case isTrue waits => exact unresolved waits
      case isFalse => rfl
  | serves waiting c lives status =>
      have mine := ((settled.waiting waiting).mpr rfl).1
      rw [c.status?_resolve mine]
      rw [Exchange.outcome?, if_neg lives]
      simp only [Option.some.injEq, eq_comm, Reply.served?]
  | drops waiting c =>
      have mine := ((settled.waiting waiting).mpr rfl).1
      rw [c.status?_resolve mine]
      simp only [Option.some.injEq, eq_comm, Exchange.outcome?, if_true]
  | closes => rfl

theorem status?_kept (turn : d.Turn call reply d') (settled : d.Settled) {status : PassStatus}
    (resolved : d.completions.status? handle = some status) :
    d'.completions.status? handle = some status := by
  have known : handle < d.completions.statuses.length :=
    d.completions.known_of_resolved resolved
  rw [turn.status?_of_known settled known]
  split
  case isTrue waits =>
    rw [((settled.waiting handle).mpr waits).2] at resolved
    cases resolved
  case isFalse => exact resolved

/-- What waits is resolved by the outcome of a call, and nothing else is. -/
theorem status?_of_outcome (turn : d.Turn call reply d') (settled : d.Settled)
    (waits : d.waiting? = some handle) {status : PassStatus}
    (outcome : Exchange.outcome? ⟨call, reply⟩ = some status)
    (known : other < d.completions.statuses.length) :
    d'.completions.status? other =
      if other = handle then some status else d.completions.status? other := by
  rw [turn.status?_of_known settled known, waits, outcome]
  simp only [Option.some.injEq, eq_comm]

theorem waits_of_served (turn : d.Turn call reply d') {status : PassStatus}
    (served : reply.served? = some status) :
    call ≠ .destroy ∧ ∃ handle, d.waiting? = some handle := by
  cases turn with
  | rests lives silent missed =>
      rw [missed] at served
      cases served
  | serves waiting c lives => exact ⟨lives, waiting, rfl⟩
  | opens | joins | refuses | drops | closes => cases served

theorem status?_of_given (turn : d.Turn call reply d') (settled : d.Settled)
    (given : reply.handle? = some handle) :
    d'.completions.status? handle = if d.destroyed then some .skipped else none := by
  cases turn with
  | rests lives silent =>
      rw [silent] at given
      cases given
  | opens c | refuses c =>
      cases given
      rw [c.status?_issue]
      exact if_pos rfl
  | joins =>
      cases given
      exact ((settled.waiting handle).mpr rfl).2
  | serves | drops | closes => cases given

/-- A request gets a handle that was given out before just when that one is open. -/
theorem given_iff (turn : d.Turn call reply d') (settled : d.Settled)
    (given : reply.handle? = some other) (known : handle < d.completions.statuses.length) :
    other = handle ↔ d.completions.status? handle = none := by
  have waits : d.completions.status? handle = none ↔ d.waiting? = some handle := by
    rw [← settled.waiting, Completions.Open]
    exact (and_iff_right known).symm
  rw [waits]
  cases turn with
  | rests lives silent =>
      rw [silent] at given
      cases given
  | opens c | refuses c =>
      cases given
      exact ⟨fun same => absurd same (Nat.ne_of_gt known), nofun⟩
  | joins waiting c =>
      cases given
      exact Option.some.injEq _ _ ▸ Iff.rfl
  | serves | drops | closes => cases given

theorem new_of_destroyed (turn : d.Turn call reply d') (settled : d.Settled)
    (gone : d.destroyed = true) (given : reply.handle? = some handle) :
    ¬ handle < d.completions.statuses.length := by
  intro known
  have unresolved := (turn.given_iff settled given known).mp rfl
  have waits := (settled.waiting handle).mp ⟨known, unresolved⟩
  rw [settled.stopped gone] at waits
  cases waits

end Turn

end Docket

namespace Session

theorem deliver_turn (s : Session) {taken : Option Pending × Scheduler} {call : Call}
    (source : taken = s.engine.scheduler.takePending ∨ taken = (none, s.engine.scheduler))
    (stopped : s.engine.destroyed = true → s.engine.scheduler.pending? = none)
    (lives : call ≠ .destroy) :
    s.engine.docket.Turn call (.delivered (s.deliver (s.engine.deliver taken)).1)
      (s.deliver (s.engine.deliver taken)).2.engine.docket := by
  rcases source with rfl | rfl
  · rw [Scheduler.takePending]
    cases waits : s.engine.scheduler.pending? with
    | none =>
        have same : Engine.docket { s.engine with
            scheduler := { s.engine.scheduler with pending? := none } } = s.engine.docket := by
          rw [Engine.docket, Engine.docket, waits]
        exact same ▸ .rests lives rfl rfl
    | some p =>
        have works : s.engine.destroyed = false := by
          rw [← Bool.not_eq_true]
          intro gone
          rw [stopped gone] at waits
          cases waits
        have before : s.engine.docket =
            ⟨some p.completion, s.engine.scheduler.completions, false⟩ := by
          rw [Engine.docket, waits, works]
          rfl
        have kept : (s.highlight p.request).2.engine.destroyed = false := by
          rw [highlight, Engine.destroyed_execute, works]
        rw [deliver_some, before]
        simp only [Engine.docket, withScheduler, Engine.withScheduler, kept]
        exact .serves p.completion s.engine.scheduler.completions lives _
  · exact .rests lives rfl rfl

theorem schedule_turn (s : Session)
    (stopped : s.engine.destroyed = true → s.engine.scheduler.pending? = none) (r : Request)
    (now : Nat) : s.engine.docket.Turn (.schedule r now) (.handle (s.schedule r now).1)
      (s.schedule r now).2.engine.docket := by
  simp only [schedule, Engine.schedule, Engine.docket, Scheduler.schedule]
  cases works : s.engine.destroyed with
  | true =>
      rw [stopped works]
      exact .refuses s.engine.scheduler.completions r now
  | false =>
      cases s.engine.scheduler.pending? with
      | none => exact .opens s.engine.scheduler.completions r now
      | some p => exact .joins p.completion s.engine.scheduler.completions r now

theorem destroy_turn (s : Session)
    (stopped : s.engine.destroyed = true → s.engine.scheduler.pending? = none) :
    s.engine.docket.Turn .destroy .done s.engine.destroy.docket := by
  simp only [Engine.destroy, Engine.docket]
  cases works : s.engine.destroyed with
  | true =>
      rw [if_pos rfl, stopped works, works]
      exact .closes s.engine.scheduler.completions true
  | false =>
      rw [if_neg Bool.false_ne_true, Scheduler.cancel]
      cases waits : s.engine.scheduler.pending? with
      | none =>
          dsimp only
          rw [waits]
          exact .closes s.engine.scheduler.completions false
      | some p => exact .drops p.completion s.engine.scheduler.completions

theorem perform_turn (s : Session)
    (stopped : s.engine.destroyed = true → s.engine.scheduler.pending? = none) (call : Call) :
    s.engine.docket.Turn call (s.perform call).1 (s.perform call).2.engine.docket := by
  rcases Decidable.em (call = .destroy) with rfl | lives
  · exact s.destroy_turn stopped
  cases call with
  | highlight r =>
      have same : (s.perform (.highlight r)).2.engine.docket = s.engine.docket := by
        simp only [Engine.docket, perform, highlight, Prod.map, id,
          Engine.scheduler_execute, Engine.destroyed_execute]
      rw [same]
      exact .rests lives rfl rfl
  | schedule r now => exact s.schedule_turn stopped r now
  | pollAt now => exact s.deliver_turn (s.engine.scheduler.takeDue_cases now) stopped lives
  | flush => exact s.deliver_turn (Or.inl rfl) stopped lives
  | update u =>
      have same : (s.perform (.update u)).2.engine.docket = s.engine.docket := by
        simp only [perform, Engine.updateOptions]
        split <;> rfl
      rw [same]
      exact .rests lives rfl rfl
  | clearCache => exact .rests lives rfl rfl
  | destroy => exact absurd rfl lives

end Session

end MarkdownHighlight
