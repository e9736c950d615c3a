import MarkdownHighlight.Error

/-!
Cutting a match into parts. Each cut covers the text from the previous cut up
to its own place, so the parts tile the match by construction; a cut that goes
backwards or past the end spoils the whole list.
-/

namespace MarkdownHighlight

/-- A part that ends at a place, and starts where the one before it ends. -/
structure Cut where
  role : Role
  stop : Nat
  deriving DecidableEq, Repr

namespace Part

/-- Empty parts are dropped, but content is kept: nested tokens need a home. -/
def ofCut (start : Nat) (c : Cut) : List Part :=
  if start < c.stop || c.role == .content then [⟨c.role, ⟨start, c.stop⟩⟩] else []

def tileWithin (limit : Nat) : Nat → List Cut → Option (List Part)
  | _, [] => some []
  | start, c :: later =>
      if c.stop < start || limit < c.stop then none
      else (tileWithin limit c.stop later).map (ofCut start c ++ ·)

/-- The parts of `span` for a list of cuts; `tail` covers what they leave. -/
def tile? (span : Span) (cuts : List Cut) (tail : Role) : Option (List Part) :=
  tileWithin span.stop span.start (cuts ++ [⟨tail, span.stop⟩])

/-- `tile?`, with the failure reported for the pattern of that name. -/
def tile (name : String) (span : Span) (cuts : List Cut) (tail : Role) :
    Except HighlightError (List Part) :=
  match tile? span cuts tail with
  | some parts => .ok parts
  | none => .error (.extract name (.misordered span))

end Part

end MarkdownHighlight
