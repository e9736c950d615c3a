import MarkdownHighlight.Toml.Value

/-!
A document is read line by line: blank lines and comments, keys with values,
and headers that say which table the keys after them belong to.
-/

namespace MarkdownHighlight.Toml

open Reader

inductive Line where
  | blank
  | entry (path : List Text) (key : Text) (item : Item)
  | table (path : List Text) (key : Text)
  | tableArray (path : List Text) (key : Text)

/-- A line, its blanks in front and its line end. Items within a line may span
several lines of the text. -/
def line : Reader Line := do
  blanks
  match ← peek? with
  | some '#' => do
      comment
      lineEnd
      return .blank
  | some '[' =>
      (do
        literal ['[', '[']
        let (path, key) ← dottedKey
        literal [']', ']']
        restOfLine
        return .tableArray path key)
      <|> (do
        char '['
        let (path, key) ← dottedKey
        char ']'
        restOfLine
        return .table path key)
  | some '\n' | some '\r' => do
      lineBreak
      return .blank
  | _ => do
      let (path, key) ← dottedKey
      char '='
      blanks
      let item ← value (depthLimit - 1)
      restOfLine
      return .entry path key item

/-- The document so far and the path of the table that is being filled. -/
structure Draft where
  root : Entries
  current : List Text

def Draft.add? (d : Draft) : Line → Option Draft
  | .blank => some d
  | .entry path key item => do
      let root ← Entries.changeAt false (fun _ inner => inner.assign? path key item)
        d.current .header d.root
      return { d with root }
  | .table path key => do
      return ⟨← d.root.openTable? path key, path ++ [key]⟩
  | .tableArray path key => do
      return ⟨← d.root.appendTable? path key, path ++ [key]⟩

/-- Removes a byte order mark at the very start. -/
def withoutMark : Text → Text
  | '\ufeff' :: rest => rest
  | t => t

/-- All lines of a text. -/
def document : Reader (List Line) := do
  let lines ← many line
  blanks
  finish
  return lines

/-- The entries of a document, or nothing if it is not well formed. -/
def parse? (t : Text) : Option Entries := do
  let (lines, _) ← document (withoutMark t)
  let draft ← lines.foldlM Draft.add? ⟨[], []⟩
  return draft.root

end MarkdownHighlight.Toml
