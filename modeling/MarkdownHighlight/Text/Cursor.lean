import MarkdownHighlight.Text.Basic

/-!
A place in a text that still sees what stands before it. The characters before
the place are kept nearest first, so a look-behind and a step are both short.
-/

namespace MarkdownHighlight

structure Cursor where
  before : Text
  rest : Text
  offset : Nat
  offset_eq : offset = before.size

namespace Cursor

def atStart (text : Text) : Cursor := ⟨[], text, 0, rfl⟩

/-- The whole text that the cursor stands in. -/
def text (c : Cursor) : Text := c.before.reverse ++ c.rest

def previous? (c : Cursor) : Option Char := c.before.head?

def next? (c : Cursor) : Option Char := c.rest.head?

/-- One character further; nothing at the end of the text. -/
def forward? : Cursor → Option Cursor
  | ⟨_, [], _, _⟩ => none
  | ⟨before, c :: rest, offset, offset_eq⟩ =>
      some ⟨c :: before, rest, c.utf8Size + offset, by simp [Text.size, offset_eq]⟩

def seekWithin (place : Nat) : Text → Cursor → Cursor
  | [], c => c
  | _ :: later, c =>
      if place ≤ c.offset then c
      else match c.forward? with
        | none => c
        | some next => seekWithin place later next

/-- The first character boundary at or after `place`, or the end of the text. -/
def seek (c : Cursor) (place : Nat) : Cursor := seekWithin place c.rest c

/-- The text between two places. -/
def excerptTo (c later : Cursor) : Excerpt :=
  ⟨c.offset, c.rest.takeBytes (later.offset - c.offset)⟩

end Cursor

end MarkdownHighlight
