/-!
Text is the list of its characters. Places in a text are counted in bytes of
its UTF-8 form, so a span of bytes and the characters it covers are related by
`size`. Taking or dropping bytes never splits a character: a character that
does not fit is left out of what is taken, and one that is cut is dropped.
-/

namespace MarkdownHighlight

abbrev Text := List Char

namespace Text

/-- Bytes of the UTF-8 form. -/
def size : Text → Nat
  | [] => 0
  | c :: rest => c.utf8Size + size rest

/-- The leading characters that fit into the given number of bytes. -/
def takeBytes : Nat → Text → Text
  | _, [] => []
  | count, c :: rest =>
      if count < c.utf8Size then [] else c :: takeBytes (count - c.utf8Size) rest

/-- What is left after the given number of bytes. -/
def dropBytes : Nat → Text → Text
  | _, [] => []
  | count, c :: rest =>
      if count = 0 then c :: rest else dropBytes (count - c.utf8Size) rest

/-- Whether `pattern` stands somewhere in the text. -/
def occursIn (pattern : Text) : Text → Bool
  | [] => pattern.isEmpty
  | c :: rest => pattern.isPrefixOf (c :: rest) || occursIn pattern rest

@[simp] theorem size_append (a b : Text) : size (a ++ b) = size a + size b := by
  induction a with
  | nil => simp [size]
  | cons c rest ih => simp [size, ih, Nat.add_assoc]

@[simp] theorem takeBytes_zero (t : Text) : takeBytes 0 t = [] := by
  cases t with
  | nil => rfl
  | cons c rest => simp [takeBytes, c.utf8Size_pos]

@[simp] theorem dropBytes_zero (t : Text) : dropBytes 0 t = t := by
  cases t <;> simp [dropBytes]

@[simp] theorem takeBytes_append (a b : Text) : takeBytes (size a) (a ++ b) = a := by
  induction a with
  | nil => simp [size]
  | cons c rest ih => simp [size, takeBytes, ih]

@[simp] theorem dropBytes_append (a b : Text) : dropBytes (size a) (a ++ b) = b := by
  induction a with
  | nil => simp [size]
  | cons c rest ih =>
      have wide : c.utf8Size ≠ 0 := Nat.ne_of_gt c.utf8Size_pos
      simp [size, dropBytes, wide, ih]

end Text

/-- A stretch of bytes, the end excluded. -/
structure Span where
  start : Nat
  stop : Nat
  deriving DecidableEq, Repr

namespace Span

/-- No byte in common. -/
def disjoint (a b : Span) : Bool := a.stop ≤ b.start || b.stop ≤ a.start

/-- `inner` lies within `outer`, touching ends allowed. -/
def contains (outer inner : Span) : Bool := outer.start ≤ inner.start && inner.stop ≤ outer.stop

/-- Reading order: by start, and of two spans with one start the longer first. -/
def precedes (a b : Span) : Bool := a.start < b.start || (a.start == b.start && b.stop < a.stop)

end Span

/-- A stretch of text together with the place where it starts. -/
structure Excerpt where
  start : Nat
  text : Text
  deriving DecidableEq, Repr

namespace Excerpt

def stop (e : Excerpt) : Nat := e.start + e.text.size

def span (e : Excerpt) : Span := ⟨e.start, e.stop⟩

def isEmpty (e : Excerpt) : Bool := e.text.isEmpty

/-- The part before `place`. -/
def upTo (e : Excerpt) (place : Nat) : Excerpt := ⟨e.start, e.text.takeBytes (place - e.start)⟩

/-- The part from `place` on. -/
def startingAt (e : Excerpt) (place : Nat) : Excerpt :=
  ⟨place, e.text.dropBytes (place - e.start)⟩

/-- The part a span covers. -/
def slice (e : Excerpt) (s : Span) : Excerpt := (e.startingAt s.start).upTo s.stop

end Excerpt

end MarkdownHighlight
