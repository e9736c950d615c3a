import MarkdownHighlight.Document.Viewport
import MarkdownHighlight.Schedule.Completion

/-!
Debouncing: at most one request waits. Each new request takes the place of the
one that waits and moves the deadline, and all requests of a burst share one
completion. The clock is read by the caller; instants and delays count
nanoseconds.
-/

namespace MarkdownHighlight

structure Request where
  content : Text
  target : String
  viewport? : Option Viewport
  deriving DecidableEq, Repr

structure Pending where
  request : Request
  deadline : Nat
  completion : Handle
  /-- Requests folded into this one, itself counted. -/
  coalesced : Nat
  deriving DecidableEq, Repr

structure Scheduler where
  delay : Nat
  pending? : Option Pending
  completions : Completions
  deriving DecidableEq, Repr

namespace Scheduler

def idle (delay : Nat) : Scheduler := ⟨delay, none, .empty⟩

def isPending (s : Scheduler) : Bool := s.pending?.isSome

def deadline? (s : Scheduler) : Option Nat := s.pending?.map (·.deadline)

def coalesced (s : Scheduler) : Nat := (s.pending?.map (·.coalesced)).getD 0

/-- A new delay counts from the next request on. -/
def setDelay (s : Scheduler) (delay : Nat) : Scheduler := { s with delay }

/-- The deadline is taken to be an instant that the clock can show. A delay of whole
milliseconds in 64 bits keeps far below the last one; with the longest of all delays
there is no such instant, and the call does not come to an end. -/
def schedule (s : Scheduler) (request : Request) (now : Nat) : Handle × Scheduler :=
  let deadline := now + s.delay
  match s.pending? with
  | some p =>
      (p.completion,
        { s with pending? := some ⟨request, deadline, p.completion, p.coalesced + 1⟩ })
  | none =>
      let (handle, completions) := s.completions.issue none
      (handle, { s with pending? := some ⟨request, deadline, handle, 1⟩, completions })

theorem delay_schedule (s : Scheduler) (request : Request) (now : Nat) :
    (s.schedule request now).2.delay = s.delay := by
  rw [schedule]
  split <;> rfl

/-- What was scheduled last waits, for as long as the delay says. -/
theorem pending?_schedule (s : Scheduler) (request : Request) (now : Nat) :
    ∃ p, (s.schedule request now).2.pending? = some p ∧ p.request = request ∧
      p.deadline = now + s.delay := by
  rw [schedule]
  split
  · exact ⟨_, rfl, rfl, rfl⟩
  · exact ⟨_, rfl, rfl, rfl⟩

/-- Takes the waiting request, whatever its deadline. -/
def takePending (s : Scheduler) : Option Pending × Scheduler :=
  (s.pending?, { s with pending? := none })

/-- Takes the waiting request if its deadline has come. -/
def takeDue (s : Scheduler) (now : Nat) : Option Pending × Scheduler :=
  if s.deadline?.any (· ≤ now) then s.takePending else (none, s)

theorem takeDue_cases (s : Scheduler) (now : Nat) :
    s.takeDue now = s.takePending ∨ s.takeDue now = (none, s) := by
  rw [takeDue]
  split
  · exact Or.inl rfl
  · exact Or.inr rfl

theorem takeDue_of_early (s : Scheduler) {p : Pending} {now : Nat} (waits : s.pending? = some p)
    (early : now < p.deadline) : s.takeDue now = (none, s) := by
  rw [takeDue, deadline?, waits, if_neg]
  simpa using early

theorem takeDue_of_due (s : Scheduler) {p : Pending} {now : Nat} (waits : s.pending? = some p)
    (due : p.deadline ≤ now) : s.takeDue now = (some p, { s with pending? := none }) := by
  rw [takeDue, deadline?, waits, if_pos, takePending, waits]
  simpa using due

def resolve (s : Scheduler) (handle : Handle) (status : PassStatus) : Scheduler :=
  { s with completions := s.completions.resolve handle status }

/-- Drops the waiting request and tells whether there was one. -/
def cancel (s : Scheduler) : Bool × Scheduler :=
  match s.pending? with
  | none => (false, s)
  | some p => (true, { s with pending? := none }.resolve p.completion .cancelled)

end Scheduler

end MarkdownHighlight
