import MarkdownHighlight.Options.Basic
import MarkdownHighlight.Toml.Document

/-!
Settings as a TOML file. Every key is optional and unknown keys are ignored; a
known key must have a value of its kind. The file can hold whole numbers up to
the signed 64-bit limit only, so larger settings cannot be written.
-/

namespace MarkdownHighlight

/-- The files around the program: what is in each, and which can be written. -/
structure Files where
  contents? : Text → Option ByteArray
  writable : Text → Bool

/-- Puts a text into a file, in place of what was there. -/
def Files.write (files : Files) (path text : Text) : Except HighlightError Unit × Files :=
  if files.writable path then
    (.ok (), { files with
      contents? := fun other =>
        if other = path then some (String.ofList text).toUTF8 else files.contents? other })
  else (.error .io, files)

namespace Options

open Toml

/-- A whole number that is not negative; the fallback if the key is absent. -/
def word? (entries : Entries) (key : String) (fallback : UInt64) : Option UInt64 :=
  match entries.find? key.toList with
  | none => some fallback
  | some (.integer n) => if 0 ≤ n then some (.ofNat n.toNat) else none
  | some _ => none

def flag? (entries : Entries) (key : String) (fallback : Bool) : Option Bool :=
  match entries.find? key.toList with
  | none => some fallback
  | some (.boolean b) => some b
  | some _ => none

def ofEntries? (entries : Entries) : Option Options := do
  let debounceDelay ← word? entries "debounce-delay" standard.debounceDelay
  let lineLimit ← word? entries "max-lines-for-full-highlight" standard.lineLimit
  let margin ← word? entries "visible-lines-buffer" standard.margin
  let logPasses ← flag? entries "enable-performance-logging" standard.logPasses
  let cacheCapacity ← word? entries "max-cache-size" standard.cacheCapacity
  return { debounceDelay, lineLimit, margin, logPasses, cacheCapacity }

/-- The settings a file holds, kept within bounds. -/
def parse (text : Text) : Except HighlightError Options :=
  match (Toml.parse? text).bind ofEntries? with
  | some o => .ok o.clamped
  | none => .error .configParse

/-- The settings in a file given by its bytes, if there is one. -/
def ofFile (file? : Option ByteArray) : Except HighlightError Options :=
  match file?.bind String.fromUTF8? with
  | none => .error .io
  | some text => parse text.toList

/-- As `ofFile`, with the standard settings in place of a missing or unusable
file. -/
def ofFileOrStandard (file? : Option ByteArray) : Options :=
  match ofFile file? with
  | .ok o => o
  | .error _ => standard

def wordLine (key : String) (value : UInt64) : Text :=
  key.toList ++ " = ".toList ++ Nat.toDigits 10 value.toNat ++ ['\n']

def flagLine (key : String) (value : Bool) : Text :=
  key.toList ++ (if value then " = true\n" else " = false\n").toList

/-- The lines of a settings file. -/
def fileText (o : Options) : Text :=
  "# mdlive configuration\n# Generated automatically\n\n".toList
    ++ wordLine "debounce-delay" o.debounceDelay
    ++ wordLine "max-lines-for-full-highlight" o.lineLimit
    ++ wordLine "visible-lines-buffer" o.margin
    ++ flagLine "enable-performance-logging" o.logPasses
    ++ wordLine "max-cache-size" o.cacheCapacity

/-- The largest number a file can hold. -/
def fileNumberLimit : Nat := Nat.pow 2 63 - 1

/-- The text of a settings file, unless a number is too large for it. -/
def save (o : Options) : Except HighlightError Text :=
  if [o.debounceDelay, o.lineLimit, o.margin, o.cacheCapacity].all (·.toNat ≤ fileNumberLimit)
  then .ok o.fileText else .error .configWrite

/-- Saves settings to a file. If there is no text for them, nothing is written. -/
def saveTo (o : Options) (files : Files) (path : Text) : Except HighlightError Unit × Files :=
  match o.save with
  | .error cause => (.error cause, files)
  | .ok text => files.write path text

def loadFrom (files : Files) (path : Text) : Except HighlightError Options :=
  ofFile (files.contents? path)

end Options

end MarkdownHighlight
