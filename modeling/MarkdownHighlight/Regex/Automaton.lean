import MarkdownHighlight.Regex.Matching
import Std.Data.HashSet

/-!
Search with all branches side by side. An expression becomes a list of steps,
and a search keeps, at every place, the runners that stand at some step, the
most preferred first; of several at one step only the first goes on, so a search
takes a time that is the length of the text times the number of steps at most.
-/

namespace MarkdownHighlight

/-- One step; where it does not say where to go on, the next step follows. -/
inductive Step where
  | read (set : CharSet)
  | check (condition : Assertion)
  | fork (preferred other : Nat)
  | opening
  | closing (index : Nat)
  | accept
  deriving Repr

namespace Step

def jump (target : Nat) : Step := .fork target target

def loop (greedy : Bool) (again done : Nat) : Step :=
  if greedy then .fork again done else .fork done again

end Step

/-- Steps that are put in front of other steps, and the number of the step that
comes after them. -/
structure Passage where
  stop : Nat
  before : List Step → List Step

namespace Passage

/-- The steps of an expression, the first of them with the number `start`. -/
def ofRegex : Regex → Nat → Passage
  | .empty, start => ⟨start, id⟩
  | .one set, start => ⟨start + 1, (.read set :: ·)⟩
  | .assert condition, start => ⟨start + 1, (.check condition :: ·)⟩
  | .seq first second, start =>
      let first := ofRegex first start
      let second := ofRegex second first.stop
      ⟨second.stop, fun rest => first.before (second.before rest)⟩
  | .alt first second, start =>
      let first := ofRegex first (start + 1)
      let second := ofRegex second (first.stop + 1)
      ⟨second.stop, fun rest => .fork (start + 1) (first.stop + 1) ::
        first.before (.jump second.stop :: second.before rest)⟩
  | .star greedy body, start =>
      let body := ofRegex body (start + 1)
      ⟨body.stop + 1, fun rest => .loop greedy (start + 1) (body.stop + 1) ::
        body.before (.jump start :: rest)⟩
  | .plus greedy body, start =>
      let body := ofRegex body start
      ⟨body.stop + 1, fun rest => body.before (.loop greedy start (body.stop + 1) :: rest)⟩
  | .group index body, start =>
      let body := ofRegex body (start + 1)
      ⟨body.stop + 1, fun rest => .opening :: body.before (.closing index :: rest)⟩

end Passage

/-- The steps of an expression, of which the last accepts. -/
structure Automaton where
  steps : Array Step
  deriving Repr

/-- How far a branch has come: its step, the place where it started, the groups
that are open with the innermost first, and the groups closed so far. -/
structure Runner where
  step : Nat
  start : Cursor
  opened : List Cursor
  groups : List (Nat × Cursor × Cursor)

namespace Runner

def goTo (r : Runner) (step : Nat) : Runner := { r with step }

def advance (r : Runner) : Runner := r.goTo (r.step + 1)

def enter (r : Runner) (c : Cursor) : Runner := { r.advance with opened := c :: r.opened }

def leave (r : Runner) (index : Nat) (c : Cursor) : Runner :=
  match r.opened with
  | opened :: outer => { r.advance with opened := outer, groups := (index, opened, c) :: r.groups }
  | [] => r.advance

/-- The runners to go on with in place of one that stands at a step. -/
def replace (r : Runner) (c : Cursor) : Step → List Runner
  | .read _ => []
  | .accept => []
  | .check condition => if condition.holds c then [r.advance] else []
  | .fork preferred other => [r.goTo preferred, r.goTo other]
  | .opening => [r.enter c]
  | .closing index => [r.leave index c]

theorem length_replace_le (r : Runner) (c : Cursor) (s : Step) : (r.replace c s).length ≤ 2 := by
  cases s <;> simp [replace]
  split <;> simp

end Runner

namespace Automaton

def ofRegex (r : Regex) : Automaton := ⟨((Passage.ofRegex r 0).before [.accept]).toArray⟩

/-- The steps that no runner has stood at yet. -/
def unseen (size : Nat) (seen : Std.HashSet Nat) : List Nat :=
  (List.range size).filter (!seen.contains ·)

theorem length_filter_lt {p q : Nat → Bool} {l : List Nat} (weaker : ∀ n, q n → p n) {k : Nat}
    (member : k ∈ l) (holds : p k) (fails : q k = false) :
    (l.filter q).length < (l.filter p).length := by
  induction l with
  | nil => simp at member
  | cons n rest ih =>
      have shorter : (rest.filter q).length ≤ (rest.filter p).length := by
        simp only [← List.countP_eq_length_filter]
        exact List.countP_mono_left fun n _ => weaker n
      rcases List.mem_cons.mp member with rfl | later
      · simp [holds, fails]
        omega
      · have := ih later
        by_cases h : q n
        · simp [h, weaker n h, this]
        · by_cases h' : p n <;> simp [h, h'] <;> omega

theorem length_unseen_insert {size step : Nat} {seen : Std.HashSet Nat} (inside : step < size)
    (fresh : seen.contains step = false) :
    (unseen size (seen.insert step)).length < (unseen size seen).length := by
  apply length_filter_lt (k := step)
  · intro n
    simp
  · simpa using inside
  · simpa using fresh
  · simp

/-- Follows the runners, the most preferred first, to the steps that read or
accept. Each step is stood at once. -/
def settle (a : Automaton) (c : Cursor) (seen : Std.HashSet Nat) :
    List Runner → List (Runner × Step) → List (Runner × Step)
  | [], settled => settled.reverse
  | r :: work, settled =>
      if fresh : seen.contains r.step = false then
        if inside : r.step < a.steps.size then
          let step := a.steps[r.step]
          let settled := match step with
            | .read _ | .accept => (r, step) :: settled
            | _ => settled
          settle a c (seen.insert r.step) (r.replace c step ++ work) settled
        else settle a c seen work settled
      else settle a c seen work settled
termination_by work => work.length + 2 * (unseen a.steps.size seen).length
decreasing_by
  all_goals simp_wf
  · have := length_unseen_insert inside fresh
    have := r.length_replace_le c a.steps[r.step]
    omega

/-- The runners that read the next character, up to the first that accepts, and
the match of that one. -/
def advance (c : Cursor) : List (Runner × Step) → List Runner × Option Match
  | [] => ([], none)
  | (r, step) :: later =>
      match step with
      | .accept => ([], some ⟨r.start, c, r.groups⟩)
      | .read set =>
          let (runners, found?) := advance c later
          (if c.next?.any set.test then r.advance :: runners else runners, found?)
      | _ => advance c later

/-- Goes on from a place with the runners that came there, and with one more
that starts there unless a match has been found. -/
def searchWithin (a : Automaton) : Text → Cursor → List Runner → Option Match → Option Match
  | text, c, runners, found? =>
      let work := if found?.isSome then runners else runners ++ [⟨0, c, [], []⟩]
      if work.isEmpty then found?
      else
        let (runners, better?) := advance c (a.settle c ∅ work [])
        let found? := better?.orElse fun _ => found?
        match text, c.forward? with
        | _ :: later, some next => searchWithin a later next runners found?
        | _, _ => found?

/-- The leftmost match at or after the cursor. -/
def search? (a : Automaton) (c : Cursor) : Option Match := a.searchWithin c.rest c [] none

end Automaton

end MarkdownHighlight
