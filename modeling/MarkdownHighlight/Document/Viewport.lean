import MarkdownHighlight.Error
import MarkdownHighlight.Text.Lines

/-!
The lines an editor shows, and the lines to highlight for them. A document
below the line limit is taken whole; a longer one is narrowed to the visible
lines and a margin on either side, kept within the document.
-/

namespace MarkdownHighlight

/-- The first and the last visible line, counted from zero. -/
structure Viewport where
  first : UInt64
  last : UInt64
  deriving DecidableEq, Repr

namespace Viewport

def isInverted (v : Viewport) : Bool := v.last < v.first

def validate (v : Viewport) : Except HighlightError Unit :=
  if v.isInverted then .error (.invalidViewport v.first v.last) else .ok ()

/-- The form `FIRST:LAST`, in decimal. -/
def fingerprint (v : Viewport) : Text :=
  Nat.toDigits 10 v.first.toNat ++ ':' :: Nat.toDigits 10 v.last.toNat

end Viewport

/-- The lines from `start` to `stop`, both included, joined again. -/
structure LineSlice where
  content : Text
  start : Nat
  stop : Nat
  deriving DecidableEq, Repr

namespace LineSlice

/-- Whether the slice reaches over that many lines. -/
def isFull (s : LineSlice) (lineCount : Nat) : Bool := s.start == 0 && lineCount ≤ s.stop + 1

end LineSlice

/-- When a document is narrowed, and by how much more than what is visible. -/
structure Narrowing where
  lineLimit : UInt64 := 1000
  margin : UInt64 := 50
  deriving DecidableEq, Repr

namespace Narrowing

/-- The lines to highlight. A viewport past the end is moved to the last line,
and an inverted one selects a single line. -/
def select (n : Narrowing) (lines : List Text) (viewport? : Option Viewport) : LineSlice :=
  let lastLine := lines.length - 1
  let whole : LineSlice := ⟨Text.joinLines lines, 0, lastLine⟩
  match viewport? with
  | none => whole
  | some v =>
      if lines.isEmpty || lines.length < n.lineLimit.toNat then whole
      else
        let stop := min (v.last.toNat + n.margin.toNat) lastLine
        let start := min (v.first.toNat - n.margin.toNat) stop
        ⟨Text.joinLines ((lines.drop start).take (stop + 1 - start)), start, stop⟩

end Narrowing

end MarkdownHighlight
