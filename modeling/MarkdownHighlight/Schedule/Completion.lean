/-!
Handles for the outcome of a pass. A handle is a number into a ledger that only
grows; its status is open until it is resolved.
-/

namespace MarkdownHighlight

inductive PassStatus where
  /-- Markup was rendered and written. -/
  | rendered
  /-- Markup was taken from the cache and written. -/
  | cached
  /-- The request was refused and nothing was written. -/
  | skipped
  /-- The pass failed; the target was hidden and emptied. -/
  | failed
  /-- The request was dropped before it ran. -/
  | cancelled
  deriving DecidableEq, Repr

/-- Names one completion. -/
abbrev Handle := Nat

structure Completions where
  statuses : List (Option PassStatus)
  deriving DecidableEq, Repr

namespace Completions

def empty : Completions := ⟨[]⟩

/-- The next handle, with the given status. -/
def issue (c : Completions) (status? : Option PassStatus) : Handle × Completions :=
  (c.statuses.length, ⟨c.statuses ++ [status?]⟩)

def resolve (c : Completions) (handle : Handle) (status : PassStatus) : Completions :=
  ⟨c.statuses.set handle (some status)⟩

def status? (c : Completions) (handle : Handle) : Option PassStatus := c.statuses[handle]?.join

end Completions

end MarkdownHighlight
