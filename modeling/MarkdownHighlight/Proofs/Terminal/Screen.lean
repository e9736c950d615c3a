import MarkdownHighlight.Terminal.Paint
import MarkdownHighlight.Text.Digits

/-!
A terminal that reads what was painted. It understands the sequences that select
one of 256 colours, bold, italic, underlined and crossed-out writing, and the one
that resets them all, and refuses every other sequence. Whatever stands outside
of sequences it shows as the sequences before have left its pen.
-/

namespace MarkdownHighlight.Terminal

structure Pen where
  /-- One of 256 colours; without one the standard colour is used. -/
  color? : Option Nat := none
  bold : Bool := false
  italic : Bool := false
  underline : Bool := false
  strikethrough : Bool := false
  deriving DecidableEq, Repr

namespace Pen

def plain : Pen := {}

def ofStyle (s : Style) : Pen := ⟨colorIndex? s.fg, s.bold, s.italic, s.underline, s.strikethrough⟩

def changed? (p : Pen) : List Nat → Option Pen
  | [0] => some plain
  | [1] => some { p with bold := true }
  | [3] => some { p with italic := true }
  | [4] => some { p with underline := true }
  | [9] => some { p with strikethrough := true }
  | [38, 5, index] => if index < 256 then some { p with color? := some index } else none
  | _ => none

theorem ofStyle_injective : Function.Injective ofStyle := by
  rintro ⟨fg, _⟩ ⟨fg', _⟩ same
  obtain ⟨colors, rfl, rfl, rfl, rfl⟩ := Pen.mk.inj same
  cases fg <;> cases fg' <;> first | rfl | cases colors

end Pen

structure Cell where
  char : Char
  pen : Pen
  deriving DecidableEq, Repr

inductive Mode where
  | outside
  | escaped
  /-- The parameters that are complete, and what is there of the next. -/
  | parameters (complete : List Nat) (next? : Option Nat)
  deriving DecidableEq, Repr

structure Screen where
  cells : List Cell
  pen : Pen
  mode : Mode
  deriving DecidableEq, Repr

namespace Screen

def blank : Screen := ⟨[], .plain, .outside⟩

def accept? (s : Screen) (c : Char) : Option Screen :=
  match s.mode with
  | .outside =>
      if c = escapeChar then some { s with mode := .escaped }
      else some { s with cells := s.cells ++ [⟨c, s.pen⟩] }
  | .escaped => if c = '[' then some { s with mode := .parameters [] none } else none
  | .parameters complete next? =>
      if c.isDigit then
        some { s with mode := .parameters complete (next?.getD 0 * 10 + Text.digitValue c) }
      else match next? with
        | none => none
        | some number =>
            if c = ';' then some { s with mode := .parameters (complete ++ [number]) none }
            else if c = 'm' then
              (s.pen.changed? (complete ++ [number])).map fun pen =>
                { s with pen, mode := .outside }
            else none

def feed? (s : Screen) (t : Text) : Option Screen := t.foldlM accept? s

theorem feed?_append (s : Screen) (a b : Text) :
    s.feed? (a ++ b) = (s.feed? a).bind (·.feed? b) := List.foldlM_append

variable {cells : List Cell} {pen : Pen}

theorem feed?_text (t : Text) (clean : escapeChar ∉ t) :
    feed? ⟨cells, pen, .outside⟩ t = some ⟨cells ++ t.map (⟨·, pen⟩), pen, .outside⟩ := by
  induction t generalizing cells with
  | nil => simp [feed?]
  | cons c rest ih =>
      rw [List.mem_cons, not_or] at clean
      have shown : accept? ⟨cells, pen, .outside⟩ c =
          some ⟨cells ++ [⟨c, pen⟩], pen, .outside⟩ := if_neg (Ne.symm clean.1)
      rw [feed?, List.foldlM_cons, shown]
      change feed? _ rest = _
      rw [ih clean.2, List.append_assoc]
      rfl

theorem feed?_color (fg : Color) : feed? ⟨cells, .plain, .outside⟩ (select { fg }) =
    some ⟨cells, { color? := colorIndex? fg }, .outside⟩ := by
  cases fg <;> rfl

theorem feed?_attribute (on : Bool) (parameter : String) (change : Pen → Pen)
    (reads : ∀ pen, feed? ⟨cells, pen, .outside⟩ (sequence parameter) =
      some ⟨cells, change pen, .outside⟩) (pen : Pen) :
    feed? ⟨cells, pen, .outside⟩ (if on then sequence parameter else []) =
      some ⟨cells, if on then change pen else pen, .outside⟩ := by
  cases on with
  | false => rfl
  | true => exact reads pen

theorem feed?_select (s : Style) :
    feed? ⟨cells, .plain, .outside⟩ (select s) = some ⟨cells, .ofStyle s, .outside⟩ := by
  have colorFirst : select s = select { fg := s.fg } ++ (if s.bold then sequence "1" else []) ++
      (if s.italic then sequence "3" else []) ++ (if s.underline then sequence "4" else []) ++
      (if s.strikethrough then sequence "9" else []) := by simp [select]
  rw [colorFirst, feed?_append, feed?_append, feed?_append, feed?_append, feed?_color,
    Option.bind_some, feed?_attribute s.bold "1" ({ · with bold := true }) fun _ => rfl,
    Option.bind_some, feed?_attribute s.italic "3" ({ · with italic := true }) fun _ => rfl,
    Option.bind_some, feed?_attribute s.underline "4" ({ · with underline := true }) fun _ => rfl,
    Option.bind_some,
    feed?_attribute s.strikethrough "9" ({ · with strikethrough := true }) fun _ => rfl]
  obtain ⟨fg, bold, italic, underline, strikethrough⟩ := s
  cases bold <;> cases italic <;> cases underline <;> cases strikethrough <;> rfl

theorem feed?_reset : feed? ⟨cells, pen, .outside⟩ reset = some ⟨cells, .plain, .outside⟩ := rfl

theorem feed?_paintText (s : Style) (t : Text) (clean : escapeChar ∉ t) :
    feed? ⟨cells, .plain, .outside⟩ (paintText s t) =
      some ⟨cells ++ t.map (⟨·, .ofStyle s⟩), .plain, .outside⟩ := by
  rw [paintText]
  split
  · rename_i empty
    simp [feed?, List.isEmpty_iff.mp empty]
  · split
    · rename_i unstyled
      rw [beq_iff_eq.mp unstyled]
      exact feed?_text t clean
    · rw [feed?_append, feed?_append, feed?_select, Option.bind_some, feed?_text t clean,
        Option.bind_some, feed?_reset]

end Screen

end MarkdownHighlight.Terminal
