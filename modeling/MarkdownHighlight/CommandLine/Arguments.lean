import MarkdownHighlight.Document.Viewport
import MarkdownHighlight.Text.Blank

/-!
The arguments of the command line. Options may stand anywhere, an option with a
value takes the next argument whatever it looks like, and of an option given
twice the last counts. Help and version win as soon as they are read.
-/

namespace MarkdownHighlight.CommandLine

structure RunArguments where
  markup : Bool
  config? : Option Text
  viewport? : Option Viewport
  file : Text
  deriving DecidableEq, Repr

inductive Command where
  | run (arguments : RunArguments)
  | help
  | version
  deriving DecidableEq, Repr

inductive UsageError where
  | configWithoutPath
  | viewportWithoutRange
  | invalidViewport (range : Text)
  | unknownOption (name : Text)
  | secondFile
  | missingFile
  deriving DecidableEq, Repr

def UsageError.message : UsageError → Text
  | .configWithoutPath => "--config needs a path".toList
  | .viewportWithoutRange => "--viewport needs FIRST:LAST".toList
  | .invalidViewport range =>
      "invalid viewport '".toList ++ range ++ "', expected FIRST:LAST".toList
  | .unknownOption name => "unknown option '".toList ++ name ++ "'".toList
  | .secondFile => "only one file can be highlighted".toList
  | .missingFile => "missing FILE".toList

/-- Without the blanks at both ends. -/
def trim (t : Text) : Text :=
  ((t.dropWhile Text.isBlank).reverse.dropWhile Text.isBlank).reverse

def withoutPlus : Text → Text
  | '+' :: rest => rest
  | t => t

/-- A 64-bit number in decimal digits, with an optional plus sign. -/
def parseWord? (t : Text) : Option UInt64 :=
  let digits := withoutPlus t
  if digits.isEmpty || !digits.all Char.isDigit then none
  else
    let value := Nat.ofDigitChars 10 digits 0
    if value < Nat.pow 2 64 then some (.ofNat value) else none

/-- Splits at the first colon. -/
def splitAtColon? (t : Text) : Option (Text × Text) :=
  match t.dropWhile (· != ':') with
  | [] => none
  | _ :: rest => some (t.takeWhile (· != ':'), rest)

def parseViewport? (range : Text) : Option Viewport := do
  let (first, last) ← splitAtColon? range
  return ⟨← parseWord? (trim first), ← parseWord? (trim last)⟩

/-- What has been read so far. -/
structure Seen where
  markup : Bool := false
  config? : Option Text := none
  viewport? : Option Viewport := none
  file? : Option Text := none
  deriving DecidableEq, Repr

def Seen.finish (s : Seen) : Except UsageError Command :=
  match s.file? with
  | none => .error .missingFile
  | some file => .ok (.run ⟨s.markup, s.config?, s.viewport?, file⟩)

/-- The options, in both spellings. -/
inductive Flag where
  | help
  | version
  | markup
  | config
  | viewport
  deriving DecidableEq, Repr

def Flag.ofText? (t : Text) : Option Flag :=
  if t = "--help".toList ∨ t = "-h".toList then some .help
  else if t = "--version".toList ∨ t = "-V".toList then some .version
  else if t = "--markup".toList ∨ t = "-m".toList then some .markup
  else if t = "--config".toList ∨ t = "-c".toList then some .config
  else if t = "--viewport".toList then some .viewport
  else none

/-- An argument that is no known option: the file, or a mistake. -/
def Seen.positional (s : Seen) (argument : Text) : Except UsageError Seen :=
  if argument.head? = some '-' then .error (.unknownOption argument)
  else if s.file?.isSome then .error .secondFile
  else .ok { s with file? := some argument }

def parseFrom (s : Seen) : List Text → Except UsageError Command
  | [] => s.finish
  | argument :: later =>
      match Flag.ofText? argument, later with
      | some .help, _ => .ok .help
      | some .version, _ => .ok .version
      | some .markup, later => parseFrom { s with markup := true } later
      | some .config, [] => .error .configWithoutPath
      | some .config, path :: later => parseFrom { s with config? := some path } later
      | some .viewport, [] => .error .viewportWithoutRange
      | some .viewport, range :: later =>
          match parseViewport? range with
          | none => .error (.invalidViewport range)
          | some v => parseFrom { s with viewport? := some v } later
      | none, later =>
          match s.positional argument with
          | .error e => .error e
          | .ok s => parseFrom s later

def parse (arguments : List Text) : Except UsageError Command := parseFrom {} arguments

end MarkdownHighlight.CommandLine
