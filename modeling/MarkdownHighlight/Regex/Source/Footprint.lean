import MarkdownHighlight.Regex.Basic
import MarkdownHighlight.Regex.Ranges

/-!
The room that an expression takes. An expression stands for two automata over
the bytes of UTF-8, one that reads forwards and keeps the groups, and one that
reads backwards and does not. Expressions whose automata take more than ten
mebibytes are refused.
-/

namespace MarkdownHighlight.Regex

/-- The bytes that the two automata take. -/
structure Footprint where
  forward : Nat
  backward : Nat

namespace Footprint

def stateSize : Nat := 32

/-- A transition of a state that has several. -/
def transitionSize : Nat := 8

/-- A branch of a state that consumes nothing. -/
def branchSize : Nat := 4

def limit : Nat := 10 * Nat.pow 2 20

def zero : Footprint := ⟨0, 0⟩

def add (a b : Footprint) : Footprint := ⟨a.forward + b.forward, a.backward + b.backward⟩

def times (count : Nat) (a : Footprint) : Footprint := ⟨count * a.forward, count * a.backward⟩

def both (size : Nat) : Footprint := ⟨size, size⟩

def states (count : Nat) : Footprint := both (stateSize * count)

/-- A state with so many branches. -/
def fork (count : Nat) : Footprint := both (stateSize + branchSize * count)

def sum (parts : List Footprint) : Footprint := parts.foldl add zero

/-- What goes around an expression: the search for its start, the group of the
whole and the end. -/
def frame : Footprint :=
  sum [fork 2, states 2, both transitionSize, ⟨2 * stateSize, 0⟩, states 1]

def isAllowed (a : Footprint) : Bool :=
  let whole := a.add frame
  whole.forward ≤ limit && whole.backward ≤ limit

/-- A sequence of byte ranges. -/
abbrev BytePath := List (Nat × Nat)

def fullPath (count : Nat) : BytePath := List.replicate count (0, 63)

/-- The byte paths of the numbers from `first` to `last` that have so many
digits of base 64 after the leading one. -/
def digitPaths : Nat → Nat → Nat → List BytePath
  | 0, first, last => [[(first, last)]]
  | count + 1, first, last =>
      let unit := 64 ^ (count + 1)
      let low := first / unit
      let high := last / unit
      if low = high then
        (digitPaths count (first % unit) (last % unit)).map ((low, low) :: ·)
      else
        let head := if first % unit = 0 then [] else
          (digitPaths count (first % unit) (unit - 1)).map ((low, low) :: ·)
        let tail := if last % unit = unit - 1 then [] else
          (digitPaths count 0 (last % unit)).map ((high, high) :: ·)
        let low := if first % unit = 0 then low else low + 1
        let high := if last % unit = unit - 1 then high + 1 else high
        head ++ (if low < high then [(low, high - 1) :: fullPath (count + 1)] else []) ++ tail

/-- The paths of the part of a range between two code points, all of whose
characters have `count` bytes after the leading one. -/
def pathsBetween (count low high : Nat) (range : Nat × Nat) : List BytePath :=
  let first := max low range.1
  let last := min high range.2
  if first ≤ last then digitPaths count first last else []

/-- The paths of a range, by the number of bytes; surrogates have none. -/
def paths (range : Nat × Nat) : List (Nat × BytePath) :=
  [(0, 0, 0x7f), (1, 0x80, 0x7ff), (2, 0x800, 0xd7ff), (2, 0xe000, 0xffff), (3, 0x10000, 0x10ffff)]
    |>.flatMap fun (count, low, high) => (pathsBetween count low high range).map (count, ·)

def commonLength : BytePath → BytePath → Nat
  | a :: as, b :: bs => if a = b then commonLength as bs + 1 else 0
  | _, _ => 0

/-- The edges of the tree that the paths make, which are in order. -/
def edges : List (Nat × BytePath) → Nat
  | [] => 0
  | [(_, path)] => path.length
  | (count, path) :: (nextCount, next) :: later =>
      path.length - (if count = nextCount then commonLength path next else 0)
        + edges ((nextCount, next) :: later)

/-- A set reads one byte at a time. Forwards the paths of its characters share
what they end with, backwards they share what they start with. -/
def ofRanges : Ranges → Footprint
  | [] => states 1
  | ranges =>
      let paths := ranges.flatMap paths
      match ranges with
      | [(first, last)] =>
          if first = last then states (edges paths) else ofPaths ranges.length paths
      | _ => ofPaths ranges.length paths
where
  ofPaths (rangeCount : Nat) (paths : List (Nat × BytePath)) : Footprint :=
    let edges := edges paths
    if paths.all (·.1 = 0) then
      both (2 * stateSize + transitionSize * rangeCount)
    else
      ⟨stateSize * (edges - paths.length + 2) + transitionSize * edges,
        stateSize * (edges + 2) + branchSize * paths.length⟩

def ofSet (s : CharSet) : Footprint := ofRanges s.ranges

def alternation (branches : List Footprint) : Footprint :=
  sum (fork branches.length :: states 1 :: branches)

def grouped (a : Footprint) : Footprint := a.add ⟨2 * stateSize, 0⟩

/-- The bounds of a repetition of `r` as it is made. -/
def repeated (a : Footprint) (consumes : Bool) : Nat → Option Nat → Footprint
  | 0, some 0 => states 1
  | 0, some 1 => sum [a, fork 2, states 1]
  | 0, none => if consumes then a.add (fork 2) else sum [a, fork 2, fork 2, states 1]
  | 0, some high => sum [states 2, times high (a.add (fork 2))]
  | low, none => (times low a).add (fork 2)
  | low, some high =>
      if low < high then sum [times low a, states 1, times (high - low) (a.add (fork 2))]
      else times low a

end Footprint

end MarkdownHighlight.Regex
