import MarkdownHighlight.Terminal.Style
import MarkdownHighlight.Token.Tree

/-!
A tree painted with terminal escape sequences. Each styled run sets colour and
attributes, prints its text and resets; unstyled and empty runs print no
sequence, so between runs the terminal is always in its default state.
-/

namespace MarkdownHighlight.Terminal

def escapeChar : Char := '\x1b'

/-- A select-graphic-rendition sequence. -/
def sequence (parameters : String) : Text := escapeChar :: '[' :: (parameters ++ "m").toList

/-- The number of a colour among the 256 of a terminal. -/
def colorIndex? : Color → Option Nat
  | .standard => none
  | .red => some 1
  | .green => some 2
  | .yellow => some 3
  | .blue => some 4
  | .magenta => some 5
  | .cyan => some 6
  | .brightBlack => some 8
  | .brightBlue => some 12

def reset : Text := sequence "0"

/-- The sequences that select a style, colour first. -/
def select (s : Style) : Text :=
  (match colorIndex? s.fg with
    | none => []
    | some index => sequence ("38;5;" ++ Nat.repr index))
  ++ (if s.bold then sequence "1" else [])
  ++ (if s.italic then sequence "3" else [])
  ++ (if s.underline then sequence "4" else [])
  ++ (if s.strikethrough then sequence "9" else [])

def paintText (s : Style) (text : Text) : Text :=
  if text.isEmpty then []
  else if s.isPlain then text
  else select s ++ text ++ reset

mutual

def paintNode (base : Style) : Node → Text
  | .text source => paintText base source.text
  | .token t children => t.parts.flatMap fun p =>
      let style := base.merge (.ofPart t.type p.role)
      if p.role = .content && !children.isEmpty then paintNodes style children
      else paintText style (t.partText p)

def paintNodes (base : Style) : List Node → Text
  | [] => []
  | n :: later => paintNode base n ++ paintNodes base later

end

def paint (text : Text) : Except HighlightError Text := (tokenize text).map (paintNodes .plain)

end MarkdownHighlight.Terminal
