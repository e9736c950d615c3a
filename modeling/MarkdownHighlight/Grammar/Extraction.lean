import MarkdownHighlight.Grammar.Tiling
import MarkdownHighlight.Regex.Matching
import MarkdownHighlight.Text.Blank

/-!
From the groups of a match to a token. An extraction looks at the groups and at
nothing else; it either cuts the whole match into parts with exactly one
content part, or names what is wrong with the groups.
-/

namespace MarkdownHighlight

abbrev Extraction := Captures → Except HighlightError Token

namespace Captures

/-- A group that has to have taken part. -/
def require (c : Captures) (name : String) (index : Nat) : Except HighlightError Excerpt :=
  match c.group? index with
  | some e => .ok e
  | none => .error (.extract name (.missingGroup index))

/-- The first of several groups that took part. -/
def firstOf? (c : Captures) (indices : List Nat) : Option Excerpt := indices.findSome? c.group?

def requireFirst (c : Captures) (name : String) (indices : List Nat) (cause : Mismatch) :
    Except HighlightError Excerpt :=
  match c.firstOf? indices with
  | some e => .ok e
  | none => .error (.extract name cause)

end Captures

namespace Extraction

/-- Columns of an indentation; a tab counts four. -/
def indentWidth (indent : Text) : Nat :=
  (indent.map fun c => if c == '\t' then 4 else 1).foldl (· + ·) 0

/-- The rank of a header is the length of its marker, kept in one byte. -/
def headerLevel (hashes : Text) : Nat := hashes.size % 256

def codeBlock : Extraction := fun c => do
  let name := "code_block"
  let whole ← c.require name 0
  let fence ← c.require name 1
  let language ← c.require name 2
  let info ← c.require name 3
  let body? := c.group? 4
  let closing ← c.require name 5
  let parts ← Part.tile name whole.span
    [⟨.marker, fence.stop⟩, ⟨.metadata "language", language.stop⟩, ⟨.plain, info.stop⟩,
     ⟨.content, (body?.map (·.stop)).getD info.stop⟩, ⟨.plain, closing.start⟩] .marker
  let spoken := if language.isEmpty then none else some language.text
  return ⟨.codeBlock spoken ((body?.map (·.text)).getD []), whole, parts⟩

def codeInline : Extraction := fun c => do
  let name := "code_inline"
  let whole ← c.require name 0
  let content ← c.require name 2
  let parts ← Part.tile name whole.span
    [⟨.marker, content.start⟩, ⟨.content, content.stop⟩] .marker
  return ⟨.codeInline content.text, whole, parts⟩

def header : Extraction := fun c => do
  let name := "header"
  let whole ← c.require name 0
  let hashes ← c.require name 1
  let content ← c.require name 2
  let parts ← Part.tile name whole.span
    [⟨.marker, hashes.stop⟩, ⟨.plain, content.start⟩, ⟨.content, content.stop⟩] .plain
  return ⟨.header (headerLevel hashes.text) content.text, whole, parts⟩

/-- Marker, content, marker: the shape of the emphasis constructs. -/
def delimited (name : String) (openings contents : List Nat)
    (kind : Text → Text → TokenKind) : Extraction := fun c => do
  let whole ← c.require name 0
  let opening ← c.requireFirst name openings .noDelimiter
  let content ← c.requireFirst name contents .noContent
  let parts ← Part.tile name whole.span
    [⟨.marker, opening.stop⟩, ⟨.content, content.stop⟩] .marker
  return ⟨kind content.text opening.text, whole, parts⟩

def bold : Extraction := delimited "bold" [1, 4] [2, 5] .bold

def italic : Extraction := delimited "italic" [1, 4] [2, 5] .italic

def strikethrough : Extraction := delimited "strikethrough" [1] [2] .strikethrough

/-- The separator, the destination and its name: groups 3 and 4 of an inline
link, groups 6 and 7 of a reference link. -/
def linkDestination? (c : Captures) : Option (Excerpt × Excerpt × LinkTarget × String) :=
  match c.group? 3, c.group? 4, c.group? 6, c.group? 7 with
  | some separator, some address, _, _ => some (separator, address, .url address.text, "url")
  | _, _, some separator, some label => some (separator, label, .reference label.text, "ref")
  | _, _, _, _ => none

def link : Extraction := fun c => do
  let name := "link"
  let whole ← c.require name 0
  let opening ← c.require name 1
  let text ← c.require name 2
  match linkDestination? c with
  | none => throw (.extract name .noTarget)
  | some (separator, destination, target, label) =>
      let parts ← Part.tile name whole.span
        [⟨.marker, opening.stop⟩, ⟨.content, text.stop⟩, ⟨.marker, separator.stop⟩,
         ⟨.metadata label, destination.stop⟩] .marker
      return ⟨.link text.text target (opening.text.head? == some '!'), whole, parts⟩

def blockquote : Extraction := fun c => do
  let name := "blockquote"
  let whole ← c.require name 0
  let indent ← c.require name 1
  let markers ← c.require name 2
  let content ← c.require name 3
  let parts ← Part.tile name whole.span
    [⟨.plain, indent.stop⟩, ⟨.marker, markers.stop⟩, ⟨.content, content.stop⟩] .plain
  return ⟨.blockquote (markers.text.count '>') (indentWidth indent.text) content.text, whole, parts⟩

def list : Extraction := fun c => do
  let name := "list"
  let whole ← c.require name 0
  let indent ← c.require name 1
  let marker ← c.require name 2
  let gap ← c.require name 3
  let content ← c.require name 4
  let parts ← Part.tile name whole.span
    [⟨.plain, indent.stop⟩, ⟨.marker, marker.stop⟩, ⟨.plain, gap.stop⟩,
     ⟨.content, content.stop⟩] .plain
  return ⟨.list (indentWidth indent.text / 2) marker.text content.text, whole, parts⟩

def table : Extraction := fun c => do
  let name := "table"
  let whole ← c.require name 0
  let indent ← c.require name 1
  let opening ← c.require name 2
  let content ← c.require name 3
  let closing ← c.require name 4
  let parts ← Part.tile name whole.span
    [⟨.plain, indent.stop⟩, ⟨.marker, opening.stop⟩, ⟨.content, content.stop⟩,
     ⟨.marker, closing.stop⟩] .plain
  return ⟨.table content.text, whole, parts⟩

end Extraction

end MarkdownHighlight
