import MarkdownHighlight.Regex.Basic
import MarkdownHighlight.Regex.Source.Flags
import MarkdownHighlight.Text.Reader
import MarkdownHighlight.Unicode.Property

/-!
Escapes: what may follow a backslash. A sign stands for itself, a letter for a
control character, a code point, a class or an assertion. Digits are refused,
since there are no back references. Where blanks are skipped, they are skipped
between the parts of an escape as well.
-/

namespace MarkdownHighlight.Regex

/-- What an escape stands for. -/
inductive Escape where
  | literal (c : Char)
  | members (set : CharSet)
  | assertion (condition : Assertion)
  deriving DecidableEq, Repr

def asciiAny : CharSet := .range '\x00' '\x7f'

def asciiDigit : CharSet := .range '0' '9'

def asciiBlank : CharSet := .oneOf "\t\n\x0b\x0c\r "

def asciiWord : CharSet :=
  .ofItems [.range '0' '9', .range 'A' 'Z', .single '_', .range 'a' 'z']

namespace Flags

def digits (f : Flags) : CharSet := if f.unicode then .digit else asciiDigit

def blanks (f : Flags) : CharSet := if f.unicode then .blank else asciiBlank

def letters (f : Flags) : CharSet := if f.unicode then .word else asciiWord

/-- Skips blanks, and comments up to their line end, if they are to be skipped. -/
def skipWithin (f : Flags) : Text → Reader Unit
  | [] => pure ()
  | _ :: later => do
      match ← Reader.peek? with
      | some '#' =>
          let _ ← Reader.run (· != '\n')
          f.skipWithin later
      | some c =>
          if Text.isBlank c then
            let _ ← Reader.any
            f.skipWithin later
      | none => pure ()

def skip (f : Flags) : Reader Unit := do
  if f.spaced then f.skipWithin (← get)

/-- The characters that the test accepts, as many as there are in a row but for
what is skipped. -/
def spread (f : Flags) (test : Char → Bool) : Reader Text := Reader.many do
  let c ← Reader.satisfy test
  f.skip
  return c

/-- Without Unicode, only ASCII letters have another case. -/
def casing (f : Flags) : Casing := if f.unicode then .unicode else .ascii

/-- A set as the case switch wants it. -/
def fold (f : Flags) (s : CharSet) : CharSet := if f.caseless then s.fold f.casing else s

/-- A character as the case switch wants it. -/
def literal (f : Flags) (c : Char) : CharSet :=
  if (f.casing.variants c).any (· != c) then f.fold (.single c) else .single c

/-- Without Unicode a set must not reach beyond ASCII. -/
def admit? (f : Flags) (s : CharSet) : Option CharSet :=
  if f.unicode || !s.test '\x80' then some s else none

/-- Without Unicode a character beyond ASCII is no member of a set. -/
def admitMember? (f : Flags) (c : Char) : Option Char :=
  if f.unicode || c.toNat < 0x80 then some c else none

end Flags

namespace Escape

def codePoint? (digits : Text) : Option Char :=
  let value := Text.numberOf 16 digits
  if digits.isEmpty || !value.isValidChar then none else some (.ofNat value)

/-- A code point in braces. -/
def braced (f : Flags) : Reader Char := do
  Reader.char '\x7b'
  f.skip
  let digits ← f.spread Text.isHexDigit
  Reader.char '\x7d'
  codePoint? digits

def fixedDigits (f : Flags) : Nat → Reader Text
  | 0 => pure []
  | count + 1 => do
      let c ← Reader.satisfy Text.isHexDigit
      f.skip
      return c :: (← fixedDigits f count)

/-- A code point with exactly so many digits. -/
def fixed (f : Flags) (count : Nat) : Reader Char := do
  codePoint? (← fixedDigits f count)

/-- Two digits make a byte, which without Unicode is a character of ASCII. -/
def byte (f : Flags) : Reader Char := do
  f.admitMember? (← fixed f 2)

/-- What follows a letter for a code point. -/
def codePoint (f : Flags) (unbraced : Reader Char) : Reader Char := do
  f.skip
  braced f <|> unbraced

/-- The name of a property in braces, or of one letter. -/
def propertyName (f : Flags) : Reader (Option CharSet) := do
  f.skip
  (do
    Reader.char '\x7b'
    f.skip
    let written ← f.spread (· != '\x7d')
    Reader.char '\x7d'
    return Unicode.property? written) <|> (do
    return Unicode.named? [← Reader.satisfy (· != '\\')])

def property (f : Flags) (negated : Bool) : Reader CharSet := do
  let set := f.fold (← (← propertyName f))
  if !f.unicode then failure
  else return if negated then .complement set else set

/-- Letters that stand for a control character. -/
def control? : Char → Option Char
  | 'a' => some '\x07'
  | 'f' => some '\x0c'
  | 't' => some '\t'
  | 'n' => some '\n'
  | 'r' => some '\r'
  | 'v' => some '\x0b'
  | _ => none

def named? (f : Flags) : Char → Option CharSet
  | 'd' => some f.digits
  | 's' => some f.blanks
  | 'w' => some f.letters
  | 'D' => f.admit? (.complement f.digits)
  | 'S' => f.admit? (.complement f.blanks)
  | 'W' => f.admit? (.complement f.letters)
  | _ => none

def condition? (f : Flags) : Char → Option Assertion
  | 'A' => some .textStart
  | 'z' => some .textEnd
  | 'B' => some (.notWordBoundary f.letters)
  | '<' => some (.wordStart f.letters)
  | '>' => some (.wordEnd f.letters)
  | _ => none

/-- The boundaries that are written out in braces after `\b`. -/
def boundary? (f : Flags) (name : String) : Option Assertion :=
  match name with
  | "start" => some (.wordStart f.letters)
  | "end" => some (.wordEnd f.letters)
  | "start-half" => some (.wordStartHalf f.letters)
  | "end-half" => some (.wordEndHalf f.letters)
  | _ => none

def isBoundaryLetter (c : Char) : Bool := c.isAlpha || c == '-'

/-- A boundary by its name, past the opening brace. -/
def namedBoundary (f : Flags) : Reader Assertion := do
  let name ← f.spread isBoundaryLetter
  Reader.char '\x7d'
  boundary? f (String.ofList name)

/-- A brace after `\b` starts a name if a letter follows, else a repetition. -/
def wordBoundary (f : Flags) : Reader Assertion := fun t =>
  match (do Reader.char '\x7b'; f.skip; Reader.peek? : Reader (Option Char)) t with
  | some (some c, rest) =>
      if isBoundaryLetter c then namedBoundary f rest else some (.wordBoundary f.letters, t)
  | _ => some (.wordBoundary f.letters, t)

/-- Signs are escaped to stand for themselves, angle brackets excepted. -/
def isSign (c : Char) : Bool :=
  c.toNat < 0x80 && !c.isAlphanum && c != '<' && c != '>'

/-- What follows a backslash. -/
def read (f : Flags) : Reader Escape := do
  let c ← Reader.any
  match c with
  | 'x' => return .literal (← codePoint f (byte f))
  | 'u' => return .literal (← codePoint f (fixed f 4))
  | 'U' => return .literal (← codePoint f (fixed f 8))
  | 'p' => return .members (← property f false)
  | 'P' => return .members (← property f true)
  | 'b' => return .assertion (← wordBoundary f)
  | c =>
      if isSign c then return .literal c
      else match control? c, named? f c, condition? f c with
        | some c, _, _ => return .literal c
        | _, some set, _ => return .members set
        | _, _, some condition => return .assertion condition
        | _, _, _ => failure

end Escape

end MarkdownHighlight.Regex
