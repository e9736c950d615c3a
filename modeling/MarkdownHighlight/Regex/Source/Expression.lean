import MarkdownHighlight.Regex.Source.Term

/-!
Regular expressions as they are written. Groups are numbered by their opening
parenthesis, from one on. Expressions that are nested too deeply, or that would
be too large with their counted repetitions written out, are refused.
-/

namespace MarkdownHighlight.Regex

/-- What stands in a branch: a term, or switches, which match nothing and
cannot be repeated. -/
inductive Piece where
  | term (t : Term)
  | switches

namespace Piece

def term? : Piece → Option Term
  | .term t => some t
  | .switches => none

def branch : List Piece → Term
  | [] | [.switches] => .empty
  | [.term t] => t
  | pieces => .sequence (pieces.filterMap term?)

end Piece

/-- The branches of a group that is open, latest first and each with its
pieces latest first, and what holds again when the group is closed. -/
structure Scope where
  index? : Option Nat
  outerFlags : Flags
  finished : List Term
  current : List Piece

namespace Scope

def push (s : Scope) (p : Piece) : Scope := { s with current := p :: s.current }

def nextBranch (s : Scope) : Scope :=
  { s with finished := Piece.branch s.current.reverse :: s.finished, current := [] }

def body (s : Scope) : Term := .alternation s.nextBranch.finished.reverse

end Scope

/-- An expression that is being read. -/
structure Draft where
  flags : Flags
  groups : Nat
  names : List Text
  scope : Scope
  outer : List Scope

namespace Draft

def empty : Draft := ⟨{}, 0, [], ⟨none, {}, [], []⟩, []⟩

def push (d : Draft) (p : Piece) : Draft := { d with scope := d.scope.push p }

def pushTerm (d : Draft) (t : Term) : Draft := d.push (.term t)

def openScope (d : Draft) (index? : Option Nat) (flags : Flags) : Draft :=
  { d with flags, scope := ⟨index?, d.flags, [], []⟩, outer := d.scope :: d.outer }

def openNumbered (d : Draft) : Draft :=
  { d.openScope (some (d.groups + 1)) d.flags with groups := d.groups + 1 }

def closeScope? (d : Draft) : Option Draft := do
  let scope :: outer := d.outer | none
  let group ← d.scope.body.grouped? d.scope.index?
  return { d with flags := d.scope.outerFlags, scope := scope.push (.term group), outer }

/-- Repeats the piece read last. -/
def repeat? (d : Draft) (greedy : Bool) (low : Nat) (high? : Option Nat) : Option Draft :=
  match d.scope.current with
  | .term t :: before => do
      let t ← t.repeated? (greedy != d.flags.swapGreed) low high?
      return { d with scope := { d.scope with current := .term t :: before } }
  | _ => none

def finish? (d : Draft) : Option Regex :=
  if d.outer.isEmpty && d.scope.body.isAllowed then some d.scope.body.regex else none

def isNameStart (c : Char) : Bool := c == '_' || Unicode.alphabetic.test c

def isNameChar (c : Char) : Bool :=
  isNameStart c || Unicode.number.test c || c == '.' || c == '[' || c == ']'

/-- The name of a group, with the bracket that ends it. No two groups have one
name. -/
def openNamed (d : Draft) : Reader Draft := do
  let name ← Reader.run isNameChar
  Reader.char '>'
  if name.head?.any isNameStart && !d.names.contains name
  then return { d.openNumbered with names := name :: d.names } else failure

/-- Switches, either for the rest of the enclosing group or for a group of
their own. -/
def openSwitched (d : Draft) : Reader Draft := do
  let written ← Reader.run fun c => c != ':' && c != ')'
  let flags ← d.flags.change? written
  match ← Reader.any with
  | ':' => return d.openScope none flags
  | _ => if written.isEmpty then failure else return { d with flags }.push .switches

/-- What follows an opening parenthesis. -/
def openGroup (d : Draft) : Reader Draft := do
  d.flags.skip
  (do
    Reader.literal "?P<".toList <|> Reader.literal "?<".toList
    d.openNamed) <|> (do
    Reader.char '?'
    d.openSwitched) <|> (do
    if (← Reader.peek?) == some '?' then failure else return d.openNumbered)

/-- A question mark after a repetition turns its preference around. -/
def greedy : Reader Bool := (do
  Reader.char '?'
  return false) <|> pure true

def repeatBetween (d : Draft) (low : Nat) (high? : Option Nat) : Reader Draft := do
  let greedy ← greedy
  d.repeat? greedy low high?

/-- A count, with any blanks around it. -/
def count (f : Flags) : Reader Nat := do
  let _ ← Reader.run Text.isBlank
  let digits ← f.spread Char.isDigit
  let _ ← Reader.run Text.isBlank
  let value := Text.numberOf 10 digits
  if !digits.isEmpty && value < Nat.pow 2 32 then return value else failure

/-- The upper bound of a counted repetition with the lower bound `low`. -/
def upperBound (f : Flags) (low : Nat) : Reader (Option Nat) := do
  if (← Reader.peek?) == some ',' then
    Reader.char ','
    f.skip
    if (← Reader.peek?) == some '\x7d' then return none else return some (← count f)
  else return some low

/-- The bounds of a counted repetition, past the opening brace. -/
def bounds (f : Flags) : Reader (Nat × Option Nat) := do
  f.skip
  let low ← count f
  let high? ← upperBound f low
  Reader.char '\x7d'
  if high?.all (low ≤ ·) then return (low, high?) else failure

def repeatCounted (d : Draft) : Reader Draft := do
  let (low, high?) ← bounds d.flags
  d.flags.skip
  d.repeatBetween low high?

def lineStart (f : Flags) : Assertion :=
  if !f.multiLine then .textStart else if f.crlf then .crlfLineStart else .lineStart

def lineEnd (f : Flags) : Assertion :=
  if !f.multiLine then .textEnd else if f.crlf then .crlfLineEnd else .lineEnd

def dot (f : Flags) : CharSet :=
  if f.dotAll then .any
  else if f.crlf then .complement (.oneOf "\r\n")
  else .complement (.single '\n')

def escaped (d : Draft) : Reader Draft := do
  match ← Escape.read d.flags with
  | .literal c => return d.pushTerm (.ofSet (d.flags.literal c))
  | .members set => return d.pushTerm (.ofSet set)
  | .assertion condition => return d.pushTerm (.ofCondition condition)

def bracketed (d : Draft) : Reader Draft := do
  return d.pushTerm (.ofBracket (← Bracket.read d.flags))

/-- One more sign of the expression and what belongs to it. -/
def step (d : Draft) : Reader Draft := do
  match ← Reader.any with
  | '(' => d.openGroup
  | ')' => d.closeScope?
  | '|' => return { d with scope := d.scope.nextBranch }
  | '[' => d.bracketed
  | '?' => d.repeatBetween 0 (some 1)
  | '*' => d.repeatBetween 0 none
  | '+' => d.repeatBetween 1 none
  | '\x7b' => d.repeatCounted
  | '\\' => d.escaped
  | '.' => return d.pushTerm (.ofSet (← d.flags.admit? (dot d.flags)))
  | '^' => return d.pushTerm (.ofCondition (lineStart d.flags))
  | '$' => return d.pushTerm (.ofCondition (lineEnd d.flags))
  | c => return d.pushTerm (.ofSet (d.flags.literal c))

/-- Reads to the end of the text; each round reads at least one character. -/
def readWithin : Nat → Draft → Reader Draft
  | 0, _ => failure
  | rounds + 1, d => do
      d.flags.skip
      if ← Reader.atEnd then return d
      else readWithin rounds (← d.step)

end Draft

/-- The expression that a text writes, if it is one. -/
def ofSource? (source : Text) : Option Regex := do
  let (draft, _) ← Draft.readWithin (source.length + 1) .empty source
  draft.finish?

end MarkdownHighlight.Regex
