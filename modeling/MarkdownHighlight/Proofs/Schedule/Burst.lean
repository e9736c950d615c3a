import MarkdownHighlight.Proofs.Run.History
import MarkdownHighlight.Schedule.Scheduler

/-!
What waits in a scheduler, told from its calls and what they answered. The burst is
made up of the requests that came after the last take or cancellation that found
something; the last of them waits, until the delay that was in force when it came
has passed. So a take returns the last request of a burst, and the burst is over;
and a take or a cancellation finds something just when the burst is not empty.
-/

namespace MarkdownHighlight.Scheduler

inductive Operation where
  | schedule (request : Request) (now : Nat)
  | takeDue (now : Nat)
  | takePending
  | cancel
  | setDelay (delay : Nat)
  deriving DecidableEq, Repr

inductive Answer where
  | handle (handle : Handle)
  | taken (pending? : Option Pending)
  | cancelled (any : Bool)
  | done
  deriving DecidableEq, Repr

def perform (s : Scheduler) : Operation → Answer × Scheduler
  | .schedule request now => (s.schedule request now).map .handle id
  | .takeDue now => (s.takeDue now).map .taken id
  | .takePending => s.takePending.map .taken id
  | .cancel => s.cancel.map .cancelled id
  | .setDelay delay => (.done, s.setDelay delay)

abbrev History := List (Exchange Operation Answer)

def Answer.found : Answer → Bool
  | .taken pending? => pending?.isSome
  | .cancelled any => any
  | _ => false

/-- A request as it came: when, under which delay, and after how many other calls. -/
structure Arrival where
  request : Request
  now : Nat
  delay : Nat
  place : Nat
  deriving DecidableEq, Repr

def Arrival.deadline (a : Arrival) : Nat := a.now + a.delay

def delayAfter (delay : Nat) : History → Nat
  | [] => delay
  | ⟨.setDelay delay, _⟩ :: later => delayAfter delay later
  | _ :: later => delayAfter delay later

def arrivalsFrom (delay place : Nat) : History → List Arrival
  | [] => []
  | ⟨.schedule request now, _⟩ :: later =>
      ⟨request, now, delay, place⟩ :: arrivalsFrom delay (place + 1) later
  | ⟨.setDelay delay, _⟩ :: later => arrivalsFrom delay (place + 1) later
  | _ :: later => arrivalsFrom delay (place + 1) later

def arrivals (delay : Nat) (history : History) : List Arrival := arrivalsFrom delay 0 history

/-- The requests after which nothing was found. -/
def burst (delay : Nat) (history : History) : List Arrival :=
  (arrivals delay history).filter fun a => (history.drop a.place).all (!·.output.found)

theorem arrivalsFrom_append (delay place : Nat) (before after : History) :
    arrivalsFrom delay place (before ++ after) = arrivalsFrom delay place before ++
      arrivalsFrom (delayAfter delay before) (place + before.length) after := by
  fun_induction arrivalsFrom delay place before with
  | case1 => simp [delayAfter]
  | case2 delay place request now answer later ih =>
      simp [arrivalsFrom, delayAfter, ih, Nat.add_assoc, Nat.add_comm 1]
  | case3 _ place delay answer later ih =>
      simp [arrivalsFrom, delayAfter, ih, Nat.add_assoc, Nat.add_comm 1]
  | case4 delay place e later notSchedule notDelay ih =>
      obtain ⟨operation, answer⟩ := e
      cases operation <;>
        simp_all [arrivalsFrom, delayAfter, Nat.add_assoc, Nat.add_comm 1]

theorem place_of_mem_arrivalsFrom {delay place : Nat} {history : History} :
    ∀ a ∈ arrivalsFrom delay place history, place ≤ a.place ∧ a.place < place + history.length := by
  fun_induction arrivalsFrom delay place history with
  | case1 => nofun
  | case2 delay place request now answer later ih =>
      rw [List.forall_mem_cons, List.length_cons]
      refine ⟨⟨Nat.le_refl _, by simp⟩, fun a member => ?_⟩
      have := ih a member
      omega
  | case3 _ place delay answer later ih =>
      intro a member
      have := ih a member
      rw [List.length_cons]
      omega
  | case4 delay place e later notSchedule notDelay ih =>
      intro a member
      have := ih a member
      rw [List.length_cons]
      omega

theorem place_lt {delay : Nat} {history : History} (a : Arrival)
    (member : a ∈ arrivals delay history) : a.place < history.length := by
  have := (place_of_mem_arrivalsFrom a member).2
  rwa [Nat.zero_add] at this

theorem arrivals_ordered (delay : Nat) (history : History) :
    (arrivals delay history).Pairwise fun a b => a.place < b.place := by
  unfold arrivals
  generalize 0 = place
  fun_induction arrivalsFrom delay place history with
  | case1 => exact .nil
  | case2 delay place request now answer later ih =>
      exact List.pairwise_cons.mpr ⟨fun a member => (place_of_mem_arrivalsFrom a member).1, ih⟩
  | case3 _ place delay answer later ih => exact ih
  | case4 delay place e later notSchedule notDelay ih => exact ih

/-- One more call ends the burst, or adds what arrives with it. -/
theorem burst_snoc (delay : Nat) (history : History) (e : Exchange Operation Answer) :
    burst delay (history ++ [e]) = if e.output.found then [] else
      burst delay history ++ arrivalsFrom (delayAfter delay history) history.length [e] := by
  have here : ∀ a ∈ arrivalsFrom (delayAfter delay history) history.length [e],
      (history ++ [e]).drop a.place = [e] := by
    intro a member
    have bounds := place_of_mem_arrivalsFrom a member
    have : a.place = history.length := by
      rw [List.length_singleton] at bounds
      omega
    rw [this, List.drop_left]
  have before : ∀ a ∈ arrivals delay history,
      ((history ++ [e]).drop a.place).all (!·.output.found) =
        ((history.drop a.place).all (!·.output.found) && !e.output.found) := by
    intro a member
    rw [List.drop_append_of_le_length (Nat.le_of_lt (place_lt a member)), List.all_append]
    simp
  have split : arrivals delay (history ++ [e]) = arrivals delay history ++
      arrivalsFrom (delayAfter delay history) history.length [e] := by
    rw [arrivals, arrivalsFrom_append, Nat.zero_add]
    rfl
  rw [burst, split, List.filter_append, List.filter_congr before]
  cases found : e.output.found with
  | true =>
      simp +contextual [here, found]
  | false =>
      simp +contextual [here, found, burst]

theorem delayAfter_append (delay : Nat) (before after : History) :
    delayAfter delay (before ++ after) = delayAfter (delayAfter delay before) after := by
  fun_induction delayAfter delay before with
  | case1 => rfl
  | case2 _ delay answer later ih => exact ih
  | case3 delay e later notDelay ih =>
      rw [List.cons_append, delayAfter, ih]
      exact notDelay

structure Follows (initial : Nat) (history : History) (s : Scheduler) : Prop where
  delay : s.delay = delayAfter initial history
  waiting : s.pending?.map (fun p => (p.request, p.deadline, p.coalesced)) =
    (burst initial history).getLast?.map fun a =>
      (a.request, a.deadline, (burst initial history).length)

namespace Follows

variable {initial : Nat} {history : History} {s s' : Scheduler} {e : Exchange Operation Answer}

theorem pending?_eq_none_iff (follows : s.Follows initial history) :
    s.pending? = none ↔ burst initial history = [] := by
  have same := congrArg Option.isNone follows.waiting
  rw [Option.isNone_map, Option.isNone_map] at same
  rw [← Option.isNone_iff_eq_none, same, Option.isNone_iff_eq_none, List.getLast?_eq_none_iff]

theorem last (follows : s.Follows initial history) {p : Pending} (waits : s.pending? = some p) :
    ∃ a, (burst initial history).getLast? = some a ∧ p.request = a.request ∧
      p.deadline = a.deadline ∧ p.coalesced = (burst initial history).length := by
  have same := follows.waiting
  rw [waits] at same
  obtain ⟨a, last, equal⟩ := Option.map_eq_some_iff.mp same.symm
  simp only [Prod.mk.injEq] at equal
  exact ⟨a, last, equal.1.symm, equal.2.1.symm, equal.2.2.symm⟩

theorem ended (follows : s.Follows initial history) (found : e.output.found = true)
    (steady : ∀ delay, delayAfter delay [e] = delay) (delay : s'.delay = s.delay)
    (none : s'.pending? = none) : s'.Follows initial (history ++ [e]) where
  delay := by rw [delay, follows.delay, delayAfter_append, steady]
  waiting := by
    rw [none, burst_snoc, if_pos found]
    rfl

theorem passed (follows : s.Follows initial history) (missed : e.output.found = false)
    (quiet : ∀ delay place, arrivalsFrom delay place [e] = [])
    (delay : s'.delay = delayAfter s.delay [e]) (same : s'.pending? = s.pending?) :
    s'.Follows initial (history ++ [e]) where
  delay := by rw [delay, follows.delay, delayAfter_append]
  waiting := by
    have kept : burst initial (history ++ [e]) = burst initial history := by
      rw [burst_snoc, missed, quiet, List.append_nil]
      rfl
    rw [same, kept, follows.waiting]

theorem taken (follows : s.Follows initial history) (output : e.output = .taken s.pending?)
    (steady : ∀ delay, delayAfter delay [e] = delay)
    (quiet : ∀ delay place, arrivalsFrom delay place [e] = []) :
    Follows initial (history ++ [e]) { s with pending? := none } := by
  cases waits : s.pending? with
  | none =>
      have missed : e.output.found = false := by
        rw [output, waits]
        rfl
      exact follows.passed missed quiet (steady s.delay).symm waits.symm
  | some p =>
      have found : e.output.found = true := by
        rw [output, waits]
        rfl
      exact follows.ended found steady rfl rfl

theorem schedule (follows : s.Follows initial history) (request : Request) (now : Nat) :
    (s.schedule request now).2.Follows initial
      (history ++ [⟨.schedule request now, .handle (s.schedule request now).1⟩]) := by
  have grown : burst initial
      (history ++ [⟨.schedule request now, .handle (s.schedule request now).1⟩]) =
        burst initial history ++ [⟨request, now, s.delay, history.length⟩] := by
    rw [burst_snoc, follows.delay]
    rfl
  have steady : delayAfter initial
      (history ++ [⟨.schedule request now, .handle (s.schedule request now).1⟩]) = s.delay := by
    rw [delayAfter_append, follows.delay]
    rfl
  constructor
  case delay => rw [steady, delay_schedule]
  case waiting =>
    rw [grown, List.getLast?_concat, List.length_append, Scheduler.schedule]
    cases waits : s.pending? with
    | none =>
        rw [follows.pending?_eq_none_iff.mp waits]
        rfl
    | some p =>
        obtain ⟨_, _, _, _, coalesced⟩ := follows.last waits
        simp [Arrival.deadline, coalesced]

theorem perform (follows : s.Follows initial history) (operation : Operation) :
    (s.perform operation).2.Follows initial
      (history ++ [⟨operation, (s.perform operation).1⟩]) := by
  cases operation with
  | schedule request now => exact follows.schedule request now
  | takeDue now =>
      simp only [Scheduler.perform]
      rcases s.takeDue_cases now with due | early
      · rw [due]
        exact follows.taken rfl (fun _ => rfl) fun _ _ => rfl
      · rw [early]
        exact follows.passed rfl (fun _ _ => rfl) rfl rfl
  | takePending => exact follows.taken rfl (fun _ => rfl) fun _ _ => rfl
  | cancel =>
      simp only [Scheduler.perform, cancel]
      cases waits : s.pending? with
      | none => exact follows.passed rfl (fun _ _ => rfl) rfl rfl
      | some p => exact follows.ended rfl (fun _ => rfl) rfl rfl
  | setDelay delay => exact follows.passed rfl (fun _ _ => rfl) rfl rfl

end Follows

theorem follows_history (initial : Nat) (operations : List Operation) :
    (Run.reached perform (idle initial) operations).Follows initial
      (Run.history perform (idle initial) operations) :=
  Run.keeps perform (fun history s => s.Follows initial history)
    (fun _ _ operation follows => follows.perform operation) ⟨rfl, rfl⟩ operations

/-- The call at a place of a history has taken a request: the one that came last
in the burst before it. -/
structure Returns (initial : Nat) (history : History) (place : Nat) (p : Pending) (a : Arrival) :
    Prop where
  taken : history[place]?.map (·.output) = some (.taken (some p))
  last : (burst initial (history.take place)).getLast? = some a

/-- At some time another request had come after this one in its burst. -/
def Superseded (initial : Nat) (history : History) (a : Arrival) : Prop :=
  ∃ count, a ∈ burst initial (history.take count) ∧
    (burst initial (history.take count)).getLast? ≠ some a

section Returned

variable {initial : Nat} {history : History}

theorem unfound_of_mem_burst {count place : Nat} {a : Arrival} {e : Exchange Operation Answer}
    (member : a ∈ burst initial (history.take count)) (here : history[place]? = some e)
    (since : a.place ≤ place) (before : place < count) : e.output.found = false := by
  have quiet := List.all_eq_true.mp (List.mem_filter.mp member).2
  have inside : ((history.take count).drop a.place)[place - a.place]? = some e := by
    rw [List.getElem?_drop, Nat.add_sub_cancel' since, List.getElem?_take_of_lt before, here]
  simpa using quiet e (List.mem_of_getElem? inside)

theorem place_lt_last {a b : Arrival} (member : a ∈ burst initial history)
    (last : (burst initial history).getLast? = some b) (other : a ≠ b) : a.place < b.place := by
  obtain ⟨before, split⟩ := List.getLast?_eq_some_iff.mp last
  have ordered := (arrivals_ordered initial history).filter
    fun a => (history.drop a.place).all (!·.output.found)
  rw [← burst, split, List.pairwise_append] at ordered
  rw [split, List.mem_append, List.mem_singleton] at member
  exact ordered.2.2 a (member.resolve_right other) b (List.mem_singleton_self b)

/-- A later arrival of a burst stays in it for as long as an earlier one does. -/
theorem mem_burst_of_later {count place : Nat} {a b : Arrival} (order : a.place < b.place)
    (member : b ∈ burst initial (history.take count)) (later : count ≤ place)
    (kept : a ∈ burst initial (history.take place)) :
    b ∈ burst initial (history.take place) := by
  refine List.mem_filter.mpr ⟨?_, ?_⟩
  · have split := List.take_append_drop count (history.take place)
    rw [List.take_take, Nat.min_eq_left later] at split
    rw [← split, arrivals, arrivalsFrom_append]
    exact List.mem_append_left _ (List.mem_filter.mp member).1
  · have quiet := List.all_eq_true.mp (List.mem_filter.mp kept).2
    refine List.all_eq_true.mpr fun e since => quiet e ?_
    exact (List.drop_sublist_drop_left _ (Nat.le_of_lt order)).mem since

namespace Returns

variable {place later : Nat} {p q : Pending} {a : Arrival}

theorem found (returns : Returns initial history place p a) :
    ∃ e, history[place]? = some e ∧ e.output.found = true := by
  obtain ⟨e, here, output⟩ := Option.map_eq_some_iff.mp returns.taken
  exact ⟨e, here, by rw [output]; rfl⟩

theorem member (returns : Returns initial history place p a) :
    a ∈ burst initial (history.take place) :=
  List.mem_of_getLast? returns.last

theorem since (returns : Returns initial history place p a) : a.place < place := by
  have bound := place_lt a (List.mem_filter.mp returns.member).1
  exact Nat.lt_of_lt_of_le bound (List.length_take_le place history)

theorem not_lt (first : Returns initial history place p a)
    (second : Returns initial history later q a) : ¬ place < later := by
  intro order
  obtain ⟨e, here, found⟩ := first.found
  have missed := unfound_of_mem_burst second.member here (Nat.le_of_lt first.since) order
  rw [found] at missed
  cases missed

theorem place_unique (first : Returns initial history place p a)
    (second : Returns initial history later q a) : place = later :=
  Nat.le_antisymm (Nat.not_lt.mp (second.not_lt first)) (Nat.not_lt.mp (first.not_lt second))

theorem not_superseded (returns : Returns initial history place p a) :
    ¬ Superseded initial history a := by
  rintro ⟨count, member, overtaken⟩
  rcases Nat.lt_or_ge place count with before | after
  · obtain ⟨e, here, found⟩ := returns.found
    have missed := unfound_of_mem_burst member here (Nat.le_of_lt returns.since) before
    rw [found] at missed
    cases missed
  · obtain ⟨b, last⟩ : ∃ b, (burst initial (history.take count)).getLast? = some b :=
      ⟨_, List.getLast?_eq_some_getLast (List.ne_nil_of_mem member)⟩
    have other : a ≠ b := fun same => overtaken (same ▸ last)
    have order := place_lt_last member last other
    have kept := mem_burst_of_later order (List.mem_of_getLast? last) after returns.member
    have back := place_lt_last kept returns.last other.symm
    exact Nat.lt_asymm order back

end Returns

end Returned

theorem cancel_ends (s : Scheduler) :
    s.cancel.1 = s.isPending ∧ s.cancel.2.pending? = none ∧ s.cancel.2.delay = s.delay := by
  rw [cancel, isPending]
  cases waits : s.pending? with
  | none => exact ⟨rfl, waits, rfl⟩
  | some p => exact ⟨rfl, rfl, rfl⟩

theorem pending?_of_taken {s : Scheduler} {operation : Operation} {p : Pending}
    (taken : (s.perform operation).1 = .taken (some p)) : s.pending? = some p := by
  cases operation with
  | takePending => exact Answer.taken.inj taken
  | takeDue now =>
      have found : (s.takeDue now).1 = some p := Answer.taken.inj taken
      rcases s.takeDue_cases now with due | early
      · rwa [due] at found
      · rw [early] at found
        cases found
  | schedule | cancel | setDelay => cases taken

/-- What a run takes came in as a request, and was the last one of its burst. -/
theorem returns_of_taken (initial : Nat) (operations : List Operation) {place : Nat} {p : Pending}
    (taken : (Run.history perform (idle initial) operations)[place]?.map (·.output) =
      some (.taken (some p))) :
    ∃ a, Returns initial (Run.history perform (idle initial) operations) place p a ∧
      p.request = a.request ∧ p.deadline = a.deadline ∧ p.coalesced =
        (burst initial ((Run.history perform (idle initial) operations).take place)).length := by
  have waits : (Run.reached perform (idle initial) (operations.take place)).pending? = some p := by
    rw [Run.getElem?_history, Option.map_map] at taken
    obtain ⟨operation, -, output⟩ := Option.map_eq_some_iff.mp taken
    exact pending?_of_taken output
  obtain ⟨a, last, request, deadline, coalesced⟩ :=
    (follows_history initial (operations.take place)).last waits
  rw [← Run.take_history] at last coalesced
  exact ⟨a, ⟨taken, last⟩, request, deadline, coalesced⟩

/-- A scheduler is told by the history of its calls and their answers, whatever they are
and however the clock goes. It waits as long as the burst is not empty: for the last request
of it, whose deadline is settled when it comes. A due request is taken, an early
look changes nothing. A take or a cancellation at any time finds what waits, says so
just when there is something, and leaves nothing to wait. No request is taken twice or
after it was superseded. -/
theorem trace_law (initial : Nat) (operations : List Operation) :
    let history := Run.history perform (idle initial) operations
    let s := Run.reached perform (idle initial) operations
    let waiting := burst initial history
    (s.isPending = true ↔ waiting ≠ []) ∧
    s.pending?.map (·.request) = waiting.getLast?.map (·.request) ∧
    s.deadline? = waiting.getLast?.map (·.deadline) ∧
    s.coalesced = waiting.length ∧
    (∀ now, s.takeDue now = if waiting.getLast?.any (·.deadline ≤ now)
      then (s.pending?, { s with pending? := none }) else (none, s)) ∧
    s.takePending = (s.pending?, { s with pending? := none }) ∧
    ((s.cancel.1 = true ↔ waiting ≠ []) ∧ s.cancel.2.pending? = none ∧
      s.cancel.2.delay = s.delay) ∧
    (∀ place p, history[place]?.map (·.output) = some (.taken (some p)) →
      ∃ a, Returns initial history place p a ∧ p.request = a.request ∧
        p.deadline = a.deadline ∧ p.coalesced = (burst initial (history.take place)).length) ∧
    (∀ place later p q a, Returns initial history place p a → Returns initial history later q a →
      place = later) ∧
    ∀ a, Superseded initial history a → ∀ place p, ¬ Returns initial history place p a := by
  intro history s waiting
  have follows : s.Follows initial history := follows_history initial operations
  have deadline : s.deadline? = waiting.getLast?.map (·.deadline) := by
    have same := congrArg (Option.map (·.2.1)) follows.waiting
    rwa [Option.map_map, Option.map_map] at same
  have pending : s.isPending = true ↔ waiting ≠ [] := by
    rw [isPending, Option.isSome_iff_ne_none, Ne, Ne, follows.pending?_eq_none_iff]
  refine ⟨pending, ?request, deadline, ?coalesced, ?due, rfl, ?cancelled, ?taken, ?once,
    ?superseded⟩
  case request =>
    have same := congrArg (Option.map (·.1)) follows.waiting
    rwa [Option.map_map, Option.map_map] at same
  case coalesced =>
    rw [Scheduler.coalesced]
    cases waits : s.pending? with
    | none => exact (congrArg List.length (follows.pending?_eq_none_iff.mp waits)).symm
    | some p =>
        obtain ⟨_, _, _, _, coalesced⟩ := follows.last waits
        exact coalesced
  case due =>
    intro now
    rw [takeDue, deadline, Option.any_map]
    rfl
  case cancelled =>
    obtain ⟨answer, none, delay⟩ := s.cancel_ends
    exact ⟨by rw [answer, pending], none, delay⟩
  case taken => exact fun place p taken => returns_of_taken initial operations taken
  case once => exact fun place later p q a first second => first.place_unique second
  case superseded => exact fun a superseded place p returns => returns.not_superseded superseded

/-- The delay is shortened and the clock set back before the second request comes. It is
taken as soon as it is due, and the first one never. -/
theorem trace_law_rearmed :
    let first : Request := ⟨[], "first", none⟩
    let second : Request := ⟨[], "second", none⟩
    let history := Run.history perform (idle 100) [.schedule first 10, .setDelay 3,
      .schedule second 5, .takeDue 7, .takeDue 8, .takePending]
    history.map (·.output) = [.handle 0, .done, .handle 0, .taken none,
      .taken (some ⟨second, 8, 0, 2⟩), .taken none] ∧
    (∃ a, Returns 100 history 4 ⟨second, 8, 0, 2⟩ a ∧ a.now = 5 ∧ a.delay = 3) ∧
    ∀ place p, ¬ Returns 100 history place p ⟨first, 10, 100, 0⟩ := by
  intro first second history
  obtain ⟨-, -, -, -, -, -, -, taken, -, superseded⟩ := trace_law 100 [.schedule first 10,
    .setDelay 3, .schedule second 5, .takeDue 7, .takeDue 8, .takePending]
  refine ⟨rfl, ?second, ?first⟩
  case second =>
    obtain ⟨a, returns, -⟩ := taken 4 ⟨second, 8, 0, 2⟩ rfl
    obtain rfl : _ = a := Option.some.inj returns.last
    exact ⟨_, returns, rfl, rfl⟩
  case first => exact superseded ⟨first, 10, 100, 0⟩ ⟨3, by decide, by decide⟩

end MarkdownHighlight.Scheduler
