import MarkdownHighlight.Regex.Basic
import MarkdownHighlight.Text.Cursor

/-!
Backtracking search. A regular expression is tried at a place with a
continuation for what has to follow; the first branch whose continuation
succeeds wins, so the result is the most preferred match at the leftmost place
where there is one. A search sees the text before its first place.
-/

namespace MarkdownHighlight

namespace Assertion

def wordBefore (letters : CharSet) (c : Cursor) : Bool := c.previous?.any letters.test

def wordAfter (letters : CharSet) (c : Cursor) : Bool := c.next?.any letters.test

def holds : Assertion → Cursor → Bool
  | .textStart, c => c.previous?.isNone
  | .textEnd, c => c.next?.isNone
  | .lineStart, c => c.previous?.all (· == '\n')
  | .lineEnd, c => c.next?.all (· == '\n')
  | .crlfLineStart, c =>
      c.previous?.all fun p => p == '\n' || (p == '\r' && c.next? != some '\n')
  | .crlfLineEnd, c =>
      c.next?.all fun n => n == '\r' || (n == '\n' && c.previous? != some '\r')
  | .wordBoundary letters, c => wordBefore letters c != wordAfter letters c
  | .notWordBoundary letters, c => wordBefore letters c == wordAfter letters c
  | .wordStart letters, c => !wordBefore letters c && wordAfter letters c
  | .wordEnd letters, c => wordBefore letters c && !wordAfter letters c
  | .wordStartHalf letters, c => !wordBefore letters c
  | .wordEndHalf letters, c => !wordAfter letters c

end Assertion

/-- How far a match has come: the place, and the groups closed so far with the
latest first. -/
structure Progress where
  cursor : Cursor
  groups : List (Nat × Cursor × Cursor)

namespace Progress

def consume? (set : CharSet) (p : Progress) : Option Progress :=
  match p.cursor.next? with
  | none => none
  | some c => if set.test c then p.cursor.forward?.map ({ p with cursor := · }) else none

def close (index : Nat) (opened : Cursor) (p : Progress) : Progress :=
  { p with groups := (index, opened, p.cursor) :: p.groups }

end Progress

namespace Regex

variable {Result : Type}

/-- Rounds of a body that each consume something. The remaining text bounds
their number. -/
def rounds (body : Progress → (Progress → Option Result) → Option Result) (greedy : Bool) :
    Text → Progress → (Progress → Option Result) → Option Result
  | [], p, next => next p
  | _ :: later, p, next =>
      let again (_ : Unit) := body p fun q =>
        if p.cursor.offset < q.cursor.offset then rounds body greedy later q next else none
      if greedy then (again ()).orElse fun _ => next p
      else (next p).orElse again

/-- The most preferred way to match from `p` on that `next` accepts. -/
def run : Regex → Progress → (Progress → Option Result) → Option Result
  | .empty, p, next => next p
  | .one set, p, next => (p.consume? set).bind next
  | .assert condition, p, next => if condition.holds p.cursor then next p else none
  | .seq first second, p, next => run first p fun q => run second q next
  | .alt first second, p, next => (run first p next).orElse fun _ => run second p next
  | .star greedy body, p, next => rounds (run body) greedy p.cursor.rest p next
  | .plus greedy body, p, next => run body p fun q =>
      if p.cursor.offset < q.cursor.offset then rounds (run body) greedy q.cursor.rest q next
      else next q
  | .group index body, p, next => run body p fun q => next (q.close index p.cursor)

end Regex

/-- A match: its two ends and the groups that took part, the latest first. -/
structure Match where
  start : Cursor
  stop : Cursor
  groups : List (Nat × Cursor × Cursor)

/-- The texts of the groups that took part in a match; group 0 is the whole. -/
structure Captures where
  groups : List (Nat × Excerpt)
  deriving Repr

namespace Captures

def group? (c : Captures) (index : Nat) : Option Excerpt := c.groups.lookup index

end Captures

namespace Match

def isEmpty (m : Match) : Bool := m.stop.offset == m.start.offset

def captures (m : Match) : Captures where
  groups := (0, m.start.excerptTo m.stop) ::
    m.groups.map fun (index, opened, closed) => (index, opened.excerptTo closed)

end Match

namespace Regex

/-- The match that starts at exactly this place. -/
def matchAt? (r : Regex) (c : Cursor) : Option Match :=
  r.run ⟨c, []⟩ fun p => some ⟨c, p.cursor, p.groups⟩

def searchWithin (r : Regex) : Text → Cursor → Option Match
  | [], c => r.matchAt? c
  | _ :: later, c =>
      (r.matchAt? c).orElse fun _ =>
        match c.forward? with
        | none => none
        | some next => searchWithin r later next

/-- The leftmost match at or after the cursor. -/
def search? (r : Regex) (c : Cursor) : Option Match := searchWithin r c.rest c

end Regex

end MarkdownHighlight
