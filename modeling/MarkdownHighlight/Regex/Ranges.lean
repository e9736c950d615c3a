import MarkdownHighlight.Regex.CharSet

/-!
The members of a set as ranges of code points, in increasing order and with
gaps between them. Surrogates may be listed; no character has such a code point.
-/

namespace MarkdownHighlight

abbrev Ranges := List (Nat × Nat)

namespace Ranges

def lastCode : Nat := 0x10ffff

/-- Joins the range from `first` to `last` with those that overlap or touch it,
of ranges that are ordered by their first code points. -/
def joinFrom (first last : Nat) : Ranges → Ranges
  | [] => [(first, last)]
  | (next, stop) :: later =>
      if next ≤ last + 1 then joinFrom first (max last stop) later
      else (first, last) :: joinFrom next stop later

def join : Ranges → Ranges
  | [] => []
  | (first, last) :: later => joinFrom first last later

/-- Puts a range where it belongs among ordered ranges; `rest` merges what is
left on both sides. -/
def place (range : Nat × Nat) (rest : Ranges → Ranges) : Ranges → Ranges
  | [] => range :: rest []
  | other :: later =>
      if range.1 ≤ other.1 then range :: rest (other :: later)
      else other :: place range rest later

def merge : Ranges → Ranges → Ranges
  | [], b => b
  | range :: later, b => place range (merge later) b

def union (a b : Ranges) : Ranges := join (merge a b)

/-- What lies between the ranges, from `start` on. -/
def gapsFrom (start : Nat) : Ranges → Ranges
  | [] => if start ≤ lastCode then [(start, lastCode)] else []
  | (first, last) :: later =>
      if start < first then (start, first - 1) :: gapsFrom (last + 1) later
      else gapsFrom (last + 1) later

def complement (a : Ranges) : Ranges := gapsFrom 0 a

def intersection (a b : Ranges) : Ranges := complement (union a.complement b.complement)

/-- What lies in exactly one of the two. -/
def exclusive (a b : Ranges) : Ranges := (union a b).intersection (intersection a b).complement

/-- The ranges of single code points, which may be given in any order. -/
def ofCodes (codes : List Nat) : Ranges :=
  join ((codes.mergeSort (· ≤ ·)).map fun code => (code, code))

def size (a : Ranges) : Nat := (a.map fun (first, last) => last + 1 - first).foldl (· + ·) 0

def codes (a : Ranges) : List Nat :=
  a.flatMap fun (first, last) => List.range' first (last + 1 - first)

end Ranges

namespace CodeRun

def codes (run : CodeRun) : List Nat :=
  (List.range ((run.last - run.first) / run.step + 1)).map (run.first + run.step * ·)

def ranges (run : CodeRun) : Ranges :=
  if run.step = 1 then [(run.first, run.last)] else run.codes.map fun code => (code, code)

end CodeRun

namespace CharSet

/-- A set with all that differs from a member by case only. A large set is asked
for the variants of every character that has some. -/
def caseRanges (casing : Casing) (s : CharSet) (members : Ranges) : Ranges :=
  let candidates := if members.size ≤ 1000 then members.codes else
    (Text.foldRows.flatMap fun row => CodeRun.codes ⟨row.first, row.last, row.step⟩).filter
      fun code => (casing.variants (.ofNat code)).any s.test
  members.union (Ranges.ofCodes (candidates.flatMap fun code =>
    (casing.variants (.ofNat code)).map (·.toNat)))

def ranges : CharSet → Ranges
  | .none => []
  | .any => [(0, Ranges.lastCode)]
  | .single c => [(c.toNat, c.toNat)]
  | .range first last => [(first.toNat, last.toNat)]
  | .blank => (0x09, 0x0d) :: (0x20, 0x20) :: Text.blankRanges
  | .digit => (0x30, 0x39) :: Text.decimalDigitRanges
  | .word => (0x30, 0x39) :: (0x41, 0x5a) :: (0x5f, 0x5f) :: (0x61, 0x7a) :: Text.wordRanges
  | .runs table => Ranges.join (table.flatMap (·.ranges))
  | .complement s => s.ranges.complement
  | .union a b => a.ranges.union b.ranges
  | .both a b => a.ranges.intersection b.ranges
  | .either a b => a.ranges.exclusive b.ranges
  | .caseless casing s => s.caseRanges casing s.ranges

end CharSet

end MarkdownHighlight
