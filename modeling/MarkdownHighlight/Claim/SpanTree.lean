import MarkdownHighlight.Text.Basic

/-!
A search tree keyed by spans in reading order: by start, and of two spans with
one start the longer first. Sizes are kept at the nodes to keep the tree
balanced; only the cost of a lookup depends on the balance, its result is
determined by the entries in order.
-/

namespace MarkdownHighlight

inductive SpanTree (Value : Type) where
  | leaf
  | node (size : Nat) (left : SpanTree Value) (key : Span) (value : Value)
      (right : SpanTree Value)

namespace SpanTree

variable {Value : Type}

def size : SpanTree Value → Nat
  | .leaf => 0
  | .node size _ _ _ _ => size

/-- The entries in reading order. -/
def toList : SpanTree Value → List (Span × Value)
  | .leaf => []
  | .node _ left key value right => left.toList ++ (key, value) :: right.toList

def join (left : SpanTree Value) (key : Span) (value : Value) (right : SpanTree Value) :
    SpanTree Value :=
  .node (left.size + 1 + right.size) left key value right

/-- The right subtree is lifted, or its left subtree if that is the heavy one. -/
def rotateLeft (left : SpanTree Value) (key : Span) (value : Value) :
    SpanTree Value → SpanTree Value
  | .leaf => join left key value .leaf
  | .node _ middle key' value' right =>
      match middle with
      | .node _ inner key'' value'' outer =>
          if middle.size < 2 * right.size then
            join (join left key value middle) key' value' right
          else
            join (join left key value inner) key'' value'' (join outer key' value' right)
      | .leaf => join (join left key value .leaf) key' value' right

/-- The left subtree is lifted, or its right subtree if that is the heavy one. -/
def rotateRight (left : SpanTree Value) (key : Span) (value : Value) (right : SpanTree Value) :
    SpanTree Value :=
  match left with
  | .leaf => join .leaf key value right
  | .node _ outer key' value' middle =>
      match middle with
      | .node _ inner key'' value'' far =>
          if middle.size < 2 * outer.size then
            join outer key' value' (join middle key value right)
          else
            join (join outer key' value' inner) key'' value'' (join far key value right)
      | .leaf => join outer key' value' (join .leaf key value right)

/-- A node whose subtrees may differ by one insertion from being balanced. -/
def balance (left : SpanTree Value) (key : Span) (value : Value) (right : SpanTree Value) :
    SpanTree Value :=
  if left.size + right.size ≤ 1 then join left key value right
  else if 3 * left.size < right.size then rotateLeft left key value right
  else if 3 * right.size < left.size then rotateRight left key value right
  else join left key value right

/-- Adds an entry, or replaces the one with the same key. -/
def insert (key : Span) (value : Value) : SpanTree Value → SpanTree Value
  | .leaf => join .leaf key value .leaf
  | .node size left key' value' right =>
      if key.precedes key' then balance (left.insert key value) key' value' right
      else if key'.precedes key then balance left key' value' (right.insert key value)
      else .node size left key value right

def find? (key : Span) : SpanTree Value → Option Value
  | .leaf => none
  | .node _ left key' value right =>
      if key.precedes key' then left.find? key
      else if key'.precedes key then right.find? key
      else some value

/-- Changes the value of a key, if there is one. -/
def modify (key : Span) (change : Value → Value) : SpanTree Value → SpanTree Value
  | .leaf => .leaf
  | .node size left key' value right =>
      if key.precedes key' then .node size (left.modify key change) key' value right
      else if key'.precedes key then .node size left key' value (right.modify key change)
      else .node size left key' (change value) right

/-- The last entry that starts at or before a place. -/
def latestAt? (place : Nat) : SpanTree Value → Option Value
  | .leaf => none
  | .node _ left key value right =>
      if key.start ≤ place then (right.latestAt? place).orElse fun _ => some value
      else left.latestAt? place

/-- The entries that start in a span, in reading order. -/
def startingIn (span : Span) : SpanTree Value → List Value
  | .leaf => []
  | .node _ left key value right =>
      if key.start < span.start then right.startingIn span
      else if span.stop ≤ key.start then left.startingIn span
      else left.startingIn span ++ value :: right.startingIn span

theorem toList_join (left : SpanTree Value) (key : Span) (value : Value)
    (right : SpanTree Value) :
    (join left key value right).toList = left.toList ++ (key, value) :: right.toList := rfl

theorem toList_rotateLeft (left : SpanTree Value) (key : Span) (value : Value)
    (right : SpanTree Value) :
    (rotateLeft left key value right).toList = left.toList ++ (key, value) :: right.toList := by
  unfold rotateLeft
  split
  · rfl
  · split
    · split <;> simp [toList_join, toList]
    · simp [toList_join, toList]

theorem toList_rotateRight (left : SpanTree Value) (key : Span) (value : Value)
    (right : SpanTree Value) :
    (rotateRight left key value right).toList = left.toList ++ (key, value) :: right.toList := by
  unfold rotateRight
  split
  · rfl
  · split
    · split <;> simp [toList_join, toList]
    · simp [toList_join, toList]

theorem toList_balance (left : SpanTree Value) (key : Span) (value : Value)
    (right : SpanTree Value) :
    (balance left key value right).toList = left.toList ++ (key, value) :: right.toList := by
  unfold balance
  split
  · rfl
  · split
    · exact toList_rotateLeft ..
    · split
      · exact toList_rotateRight ..
      · rfl

end SpanTree

end MarkdownHighlight
