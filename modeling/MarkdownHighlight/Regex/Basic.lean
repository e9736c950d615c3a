import MarkdownHighlight.Regex.CharSet

/-!
Regular expressions with numbered groups. Counted repetition, optional parts
and alternatives of more than two branches are built from the constructors, in
the order in which their branches are preferred.
-/

namespace MarkdownHighlight

/-- A condition on the place between two characters. -/
inductive Assertion where
  | textStart
  | textEnd
  | lineStart
  | lineEnd
  /-- Line ends that also count a carriage return, but never split `\r\n`. -/
  | crlfLineStart
  | crlfLineEnd
  | wordBoundary (letters : CharSet)
  | notWordBoundary (letters : CharSet)
  | wordStart (letters : CharSet)
  | wordEnd (letters : CharSet)
  | wordStartHalf (letters : CharSet)
  | wordEndHalf (letters : CharSet)
  deriving DecidableEq, Repr

inductive Regex where
  | empty
  | one (set : CharSet)
  | assert (condition : Assertion)
  | seq (first second : Regex)
  /-- The first branch is preferred. -/
  | alt (first second : Regex)
  /-- Rounds that each consume something; `greedy` prefers one more round. -/
  | star (greedy : Bool) (body : Regex)
  /-- One round that may consume nothing, which then is the only one, or rounds
  that each consume something. -/
  | plus (greedy : Bool) (body : Regex)
  | group (index : Nat) (body : Regex)
  deriving DecidableEq, Repr

namespace Regex

def char (c : Char) : Regex := .one (.single c)

def concat : List Regex → Regex
  | [] => .empty
  | [r] => r
  | r :: later => .seq r (concat later)

def alternation : List Regex → Regex
  | [] => .one .none
  | [r] => r
  | r :: later => .alt r (alternation later)

def literal (text : String) : Regex := concat (text.toList.map char)

def optional (greedy : Bool) (r : Regex) : Regex :=
  if greedy then .alt r .empty else .alt .empty r

/-- Every match is at least one character long. -/
def consumes : Regex → Bool
  | .empty => false
  | .one _ => true
  | .assert _ => false
  | .seq first second => first.consumes || second.consumes
  | .alt first second => first.consumes && second.consumes
  | .star _ _ => false
  | .plus _ body => body.consumes
  | .group _ body => body.consumes

/-- Any number of times. A body that may match nothing is first tried as a
round of its own. -/
def many (greedy : Bool) (r : Regex) : Regex :=
  if r.consumes then .star greedy r else optional greedy (.plus greedy r)

/-- At most `count` times. -/
def upTo (greedy : Bool) (r : Regex) : Nat → Regex
  | 0 => .empty
  | 1 => optional greedy r
  | count + 2 => optional greedy (.seq r (upTo greedy r (count + 1)))

def repeated (greedy : Bool) (r : Regex) : Nat → Option Nat → Regex
  | 0, none => many greedy r
  | low + 1, none => concat (List.replicate low r ++ [.plus greedy r])
  | low, some high =>
      concat (List.replicate low r ++ if low < high then [upTo greedy r (high - low)] else [])

end Regex

end MarkdownHighlight
