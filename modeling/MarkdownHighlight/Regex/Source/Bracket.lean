import MarkdownHighlight.Regex.Source.Escape

/-!
Bracketed classes: members, ranges, named classes, brackets within brackets and
the operators `&&`, `--` and `~~`, which take everything to their left as one
operand. A hyphen is a member where it cannot be a range, and a closing bracket
is a member where the class would otherwise be empty.
-/

namespace MarkdownHighlight.Regex

inductive SetOperator where
  | intersection
  | difference
  | symmetricDifference
  deriving DecidableEq, Repr

def SetOperator.apply : SetOperator → CharSet → CharSet → CharSet
  | .intersection, a, b => .both a b
  | .difference, a, b => CharSet.difference a b
  | .symmetricDifference, a, b => .either a b

/-- A part of a bracket with its nesting. -/
structure Operand where
  set : CharSet
  depth : Nat

namespace Operand

/-- Several parts side by side are one level deeper than they are. -/
def ofItems : List Operand → Operand
  | [] => ⟨.none, 0⟩
  | [item] => item
  | items => ⟨.ofItems (items.map (·.set)), (items.map (·.depth)).foldl max 0 + 1⟩

end Operand

/-- A bracket that is being read. -/
structure Bracket where
  negated : Bool
  /-- The members since the last operator, latest first. -/
  members : List Operand
  /-- The left operand and its operator. -/
  left? : Option (Operand × SetOperator)

namespace Bracket

def add (b : Bracket) (item : Operand) : Bracket := { b with members := item :: b.members }

def addSet (b : Bracket) (s : CharSet) : Bracket := b.add ⟨s, 0⟩

/-- All that has been read, as one part. -/
def operand (f : Flags) (b : Bracket) : Operand :=
  let right := Operand.ofItems b.members.reverse
  match b.left? with
  | none => right
  | some (left, operator) =>
      ⟨operator.apply (f.fold left.set) (f.fold right.set), max left.depth right.depth + 1⟩

def operate (f : Flags) (b : Bracket) (operator : SetOperator) : Bracket :=
  { b with members := [], left? := some (b.operand f, operator) }

/-- The set of a name or a bracket with its negation. -/
def finish? (f : Flags) (negated : Bool) (s : CharSet) : Option CharSet :=
  f.admit? (if negated then .complement (f.fold s) else f.fold s)

def close? (f : Flags) (b : Bracket) : Option Operand :=
  let inner := b.operand f
  (finish? f b.negated inner.set).map (⟨·, inner.depth + 1⟩)

def asciiClass? (name : String) : Option CharSet :=
  match name with
  | "alnum" => some (.ofItems [.range '0' '9', .range 'A' 'Z', .range 'a' 'z'])
  | "alpha" => some (.ofItems [.range 'A' 'Z', .range 'a' 'z'])
  | "ascii" => some asciiAny
  | "blank" => some (.oneOf "\t ")
  | "cntrl" => some (.ofItems [.range '\x00' '\x1f', .single '\x7f'])
  | "digit" => some asciiDigit
  | "graph" => some (.range '!' '~')
  | "lower" => some (.range 'a' 'z')
  | "print" => some (.range ' ' '~')
  | "punct" => some (.ofItems [.range '!' '/', .range ':' '@', .range '[' '\x60', .range '\x7b' '~'])
  | "space" => some asciiBlank
  | "upper" => some (.range 'A' 'Z')
  | "word" => some asciiWord
  | "xdigit" => some (.ofItems [.range '0' '9', .range 'A' 'F', .range 'a' 'f'])
  | _ => none

/-- A class such as `[:alpha:]` or `[:^alpha:]`, with whether it is negated. -/
def asciiClass : Reader (Bool × CharSet) := do
  Reader.literal ['[', ':']
  let negated ← (do
    Reader.char '^'
    return true) <|> pure false
  let name ← Reader.run (· != ':')
  Reader.literal [':', ']']
  return (negated, ← asciiClass? (String.ofList name))

/-- One end of a range, or a member of its own. -/
def primitive (f : Flags) : Reader Escape := do
  match ← Reader.any with
  | '\\' => Escape.read f
  | c => return .literal c

def member? (f : Flags) : Escape → Option CharSet
  | .literal c => (f.admitMember? c).map .single
  | .members set => some set
  | .assertion _ => none

def range? (f : Flags) : Escape → Escape → Option CharSet
  | .literal first, .literal last => do
      let first ← f.admitMember? first
      let last ← f.admitMember? last
      if first ≤ last then return .range first last else failure
  | _, _ => none

/-- The next character that is not blank. Where blanks are skipped, one number
sign is passed over, too, but not the rest of its line. -/
def ahead? (f : Flags) (t : Text) : Option Char :=
  if f.spaced then
    match t.dropWhile Text.isBlank with
    | '#' :: rest => (rest.dropWhile Text.isBlank).head?
    | rest => rest.head?
  else t.head?

/-- Whether a hyphen at the front goes on to a range. -/
def startsRange (f : Flags) : Text → Bool
  | '-' :: rest => (ahead? f rest).all fun c => c != ']' && c != '-'
  | _ => false

def member (f : Flags) : Reader CharSet := do
  let first ← primitive f
  f.skip
  if startsRange f (← get) then
    Reader.char '-'
    f.skip
    range? f first (← primitive f)
  else member? f first

/-- The start of a bracket: the negation sign and members that are only read
as such in this place, past the opening bracket. -/
def start (f : Flags) : Reader Bracket := do
  f.skip
  let negated ← (do
    Reader.char '^'
    f.skip
    return true) <|> pure false
  let hyphens ← Reader.many (do
    Reader.char '-'
    f.skip
    return CharSet.single '-')
  let closing ← if hyphens.isEmpty then (do
      Reader.char ']'
      f.skip
      return [CharSet.single ']']) <|> pure []
    else pure []
  return ⟨negated, (closing ++ hyphens).map (⟨·, 0⟩), none⟩

def operator? : Text → Option (SetOperator × Text)
  | '&' :: '&' :: rest => some (.intersection, rest)
  | '-' :: '-' :: rest => some (.difference, rest)
  | '~' :: '~' :: rest => some (.symmetricDifference, rest)
  | _ => none

/-- The rest of a bracket. Each round reads at least one character. -/
def readWithin (f : Flags) : Nat → Bracket → Reader Operand
  | 0, _ => failure
  | rounds + 1, b => do
      f.skip
      match operator? (← get) with
      | some (operator, rest) =>
          set rest
          readWithin f rounds (b.operate f operator)
      | none =>
          match ← Reader.peek? with
          | some ']' =>
              let _ ← Reader.any
              b.close? f
          | some '[' =>
              match ← (some <$> asciiClass) <|> pure none with
              | some (negated, s) => readWithin f rounds (b.addSet (← finish? f negated s))
              | none =>
                  let _ ← Reader.any
                  readWithin f rounds (b.add (← readWithin f rounds (← start f)))
          | _ => readWithin f rounds (b.addSet (← member f))

/-- A bracketed class, past its opening bracket. -/
def read (f : Flags) : Reader Operand := do
  readWithin f ((← get).length + 1) (← start f)

end Bracket

end MarkdownHighlight.Regex
