import MarkdownHighlight.Timing.Duration

/-!
How long passes take. The timer only observes: a pass over its budget is
reported, never stopped.
-/

namespace MarkdownHighlight

inductive TimingFault where
  | overflow
  | averageTooLong
  deriving DecidableEq, Repr

def TimingFault.message : TimingFault → String
  | .overflow => "overflow when adding durations"
  | .averageTooLong =>
      "cannot convert float seconds to Duration: value is either too big or NaN"

structure PassTimer where
  last : Duration := .zero
  total : Duration := .zero
  passes : Nat := 0
  deriving DecidableEq, Repr

namespace PassTimer

/-- A tenth of a second for each started block of ten thousand lines; blocks
are counted in 32 bits. -/
def budget (lines : Nat) : Duration :=
  let blocks := (max lines 1 + 9999) / 10000
  .ofMilliseconds (100 * min blocks (Nat.pow 2 32 - 1))

/-- Counts a finished pass and tells whether it was over its budget. -/
def record (t : PassTimer) (elapsed : Duration) (lines : Nat) :
    Except TimingFault (Bool × PassTimer) :=
  match t.total.add? elapsed with
  | none => .error .overflow
  | some total =>
      .ok ((budget lines).nanoseconds < elapsed.nanoseconds, ⟨elapsed, total, t.passes + 1⟩)

/-- The mean length of a pass, computed in floating-point seconds. -/
def average (t : PassTimer) : Except TimingFault Duration :=
  if t.passes = 0 then .ok .zero
  else match Duration.ofSeconds? (t.total.toSeconds / t.passes.toUInt64.toFloat) with
    | some d => .ok d
    | none => .error .averageTooLong

end PassTimer

end MarkdownHighlight
