import MarkdownHighlight.Text.Basic

/-!
Readers take characters off the front of a text or fail; `<|>` tries its second
reader on the text the first one started with. A repetition makes at most as
many rounds as there are characters, and one more.
-/

namespace MarkdownHighlight

abbrev Reader := StateT Text Option

namespace Reader

variable {α β : Type}

/-- The next character, left in place. -/
def peek? : Reader (Option Char) := fun t => some (t.head?, t)

def atEnd : Reader Bool := fun t => some (t.isEmpty, t)

def any : Reader Char
  | [] => none
  | c :: rest => some (c, rest)

def satisfy (test : Char → Bool) : Reader Char
  | [] => none
  | c :: rest => if test c then some (c, rest) else none

def char (c : Char) : Reader Unit := do
  let _ ← satisfy (· == c)

/-- Exactly these characters. -/
def literal (expected : Text) : Reader Unit := fun t =>
  if expected.isPrefixOf t then some ((), t.drop expected.length) else none

def finish : Reader Unit
  | [] => some ((), [])
  | _ :: _ => none

/-- The longest run of such characters, possibly empty. -/
def run (test : Char → Bool) : Reader Text := fun t => some (t.takeWhile test, t.dropWhile test)

def run1 (test : Char → Bool) : Reader Text := do
  let text ← run test
  if text.isEmpty then failure else return text

/-- Exactly so many such characters. -/
def exactly (count : Nat) (test : Char → Bool) : Reader Text := fun t =>
  if (t.take count).length = count ∧ (t.take count).all test
  then some (t.take count, t.drop count) else none

def manyWithin (r : Reader α) : Text → Reader (List α)
  | [] => (do return [← r]) <|> pure []
  | _ :: later => (do
      let first ← r
      return first :: (← manyWithin r later)) <|> pure []

/-- As often as possible. -/
def many (r : Reader α) : Reader (List α) := do
  manyWithin r (← get)

/-- At least once, with separators between. -/
def separated (separator : Reader β) (r : Reader α) : Reader (List α) := do
  let first ← r
  return first :: (← many (do
    let _ ← separator
    r))

end Reader

end MarkdownHighlight
