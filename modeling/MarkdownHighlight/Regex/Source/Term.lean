import MarkdownHighlight.Regex.Source.Bracket
import MarkdownHighlight.Regex.Source.Footprint

/-!
Expressions on their way from the written form: a sequence of parts with its
nesting and its footprint. Branches that all start with the same parts share
these parts, so of the ways to match them the most preferred comes first,
whichever branch goes on from there.
-/

namespace MarkdownHighlight.Regex

/-- Whether only the empty text can match. -/
def isHollow : Regex → Bool
  | .empty => true
  | .one _ => false
  | .assert _ => true
  | .seq first second => first.isHollow && second.isHollow
  | .alt first second => first.isHollow && second.isHollow
  | .star _ body => body.isHollow
  | .plus _ body => body.isHollow
  | .group _ body => body.isHollow

def isChar : Regex → Bool
  | .one (.single _) => true
  | _ => false

/-- An expression with its nesting and its footprint. -/
structure Term where
  parts : List Regex
  depth : Nat
  footprint : Footprint

namespace Term

def depthLimit : Nat := 250

def regex (t : Term) : Regex := .concat t.parts

def empty : Term := ⟨[], 0, .states 1⟩

def ofSet (s : CharSet) : Term := ⟨[.one s], 0, .ofSet s⟩

def ofBracket (b : Operand) : Term := { ofSet b.set with depth := b.depth }

def ofCondition (condition : Assertion) : Term := ⟨[.assert condition], 0, .states 1⟩

def largestDepth (terms : List Term) : Nat := (terms.map (·.depth)).foldl max 0

/-- Several terms one after another are one level deeper than they are. -/
def sequence (terms : List Term) : Term :=
  let full := terms.filter (!·.parts.isEmpty)
  { parts := full.flatMap (·.parts)
    depth := largestDepth terms + 1
    footprint := if full.isEmpty then .states 1 else .sum (full.map (·.footprint)) }

def grouped? (index? : Option Nat) (t : Term) : Option Term :=
  if depthLimit ≤ t.depth then none
  else match index? with
    | some index => some ⟨[.group index t.regex], t.depth + 1, t.footprint.grouped⟩
    | none => some { t with depth := t.depth + 1 }

/-- What can only match the empty text is repeated at most once. -/
def bounds (t : Term) (low : Nat) (high? : Option Nat) : Nat × Option Nat :=
  if t.regex.isHollow then (min low 1, some (min (high?.getD 1) 1)) else (low, high?)

def isAllowed (t : Term) : Bool := t.depth ≤ depthLimit && t.footprint.isAllowed

/-- A repetition, which is made only if it is not too large. -/
def repeated? (t : Term) (greedy : Bool) (low : Nat) (high? : Option Nat) : Option Term :=
  if depthLimit ≤ t.depth then none
  else match t.bounds low high? with
    | (0, some 0) => some { empty with depth := t.depth + 1 }
    | (1, some 1) => some { t with depth := t.depth + 1 }
    | (low, high?) =>
        let footprint := t.footprint.repeated t.regex.consumes low high?
        if footprint.isAllowed
        then some ⟨[t.regex.repeated greedy low high?], t.depth + 1, footprint⟩
        else none

/-- Characters that follow each other make one run. -/
def runs : List Regex → List (List Regex)
  | [] => []
  | part :: later =>
      match runs later with
      | (next :: run) :: others =>
          if part.isChar && next.isChar then (part :: next :: run) :: others
          else [part] :: (next :: run) :: others
      | others => [part] :: others

def sharedStart : List (List Regex) → List (List Regex) → List (List Regex)
  | a :: as, b :: bs => if a = b then a :: sharedStart as bs else []
  | _, _ => []

/-- The parts that all branches start with, and what is left of each. A branch
of a single part is never cut. -/
def factored? (branches : List (List Regex)) : Option (List Regex × List (List Regex)) :=
  match branches.map runs with
  | [] => none
  | first :: others =>
      let shared := others.foldl sharedStart first
      if shared.isEmpty || (first :: others).any (·.length < 2) then none
      else some (shared.flatten, (first :: others).map fun b => (b.drop shared.length).flatten)

def set? : List Regex → Option CharSet
  | [.one s] => some s
  | _ => none

/-- Branches of one character each make a set. -/
def choice (branches : List (List Regex)) : Regex :=
  match branches.mapM set? with
  | some sets => .one (.ofItems sets)
  | none => .alternation (branches.map .concat)

def alternation (branches : List Term) : Term :=
  match branches with
  | [t] => t
  | _ =>
      let parts := match factored? (branches.map (·.parts)) with
        | some (shared, rests) => shared ++ [choice rests]
        | none => [choice (branches.map (·.parts))]
      { parts
        depth := largestDepth branches + 1
        footprint := match set? parts with
          | some s => .ofSet s
          | none => .alternation (branches.map (·.footprint)) }

end Term

end MarkdownHighlight.Regex
