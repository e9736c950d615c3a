import MarkdownHighlight.Claim.Index
import MarkdownHighlight.Grammar.Markdown

/-!
One pattern claims text from left to right. A round searches from the cursor
and decides where to go on: after an accepted match, after the code around a
rejected one, or one character further. The remaining text bounds the rounds.
-/

namespace MarkdownHighlight

/-- The claims after a round and the place to search from next, if any. -/
structure Round where
  index : ClaimIndex
  resume? : Option Cursor

namespace Round

/-- Nothing can be placed inside code, so a match that is rejected there is
passed over together with the code. -/
def resumeAfter (index : ClaimIndex) (start : Cursor) : Option Cursor :=
  match index.codeEnd? start.offset with
  | some place => some (start.seek place)
  | none => start.forward?

def ofMatch (p : Pattern) (index : ClaimIndex) (m : Match) : Except HighlightError Round := do
  if m.isEmpty then
    return ⟨index, m.start.forward?⟩
  else
    let candidate ← p.extract m.captures
    if index.fits candidate then return ⟨index.insert candidate, some m.stop⟩
    else return ⟨index, resumeAfter index m.start⟩

end Round

namespace Pattern

def round (p : Pattern) (index : ClaimIndex) (cursor : Cursor) : Except HighlightError Round :=
  match p.search? cursor with
  | none => .ok ⟨index, none⟩
  | some m => Round.ofMatch p index m

def scanWithin (p : Pattern) : Text → ClaimIndex → Cursor → Except HighlightError ClaimIndex
  | [], index, cursor => (p.round index cursor).map (·.index)
  | _ :: later, index, cursor => do
      let round ← p.round index cursor
      match round.resume? with
      | none => return round.index
      | some next => p.scanWithin later round.index next

/-- Adds every match of the pattern that can be placed among the claims. -/
def scan (p : Pattern) (text : Text) (index : ClaimIndex) : Except HighlightError ClaimIndex :=
  p.scanWithin text index (.atStart text)

end Pattern

end MarkdownHighlight
