import MarkdownHighlight.Text.Digits

/-!
Sets of code points as tables of runs. A table is written with hexadecimal
numbers and blanks between the runs: `5f` is one code point, `41-5a` all from
the first to the last, and `100:12e` every second one of them.
-/

namespace MarkdownHighlight

/-- The code points from `first` to `last`, `step` apart. -/
structure CodeRun where
  first : Nat
  last : Nat
  step : Nat
  deriving DecidableEq, Repr

namespace CodeRun

def contains (run : CodeRun) (code : Nat) : Bool :=
  run.first ≤ code && code ≤ run.last && (code - run.first) % run.step == 0

/-- One run as it is written. -/
def ofText (t : Text) : CodeRun :=
  let first := Text.numberOf 16 (t.takeWhile Text.isHexDigit)
  match t.dropWhile Text.isHexDigit with
  | [] => ⟨first, first, 1⟩
  | ':' :: last => ⟨first, Text.numberOf 16 last, 2⟩
  | _ :: last => ⟨first, Text.numberOf 16 last, 1⟩

/-- The stretches of a text between blanks, some of them empty. -/
def fields : Text → List Text
  | [] => [[]]
  | c :: rest =>
      if c.isWhitespace then [] :: fields rest
      else match fields rest with
        | [] => [[c]]
        | first :: later => (c :: first) :: later

/-- A table as it is written. -/
def readTable (table : String) : List CodeRun :=
  ((fields table.toList).filter (!·.isEmpty)).map ofText

end CodeRun

end MarkdownHighlight
