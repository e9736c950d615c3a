import MarkdownHighlight.Claim.Scan

/-!
From claims to a tree. Taken from the last claim to the first, each claim finds
the claims inside it at the front of the trees built so far; they become its
children, and the gaps between them become text.
-/

namespace MarkdownHighlight

namespace Node

/-- Covers a region with the given nodes in order and text between them. -/
def fillGaps (region : Excerpt) : List Node → List Node
  | [] => if region.isEmpty then [] else [.text region]
  | n :: later =>
      let gap := region.upTo n.span.start
      let filled := n :: fillGaps (region.startingAt n.span.stop) later
      if gap.isEmpty then filled else .text gap :: filled

/-- Puts a token before trees that start later; those inside it move under it. -/
def place (t : Token) (later : List Node) : List Node :=
  let (inside, after) := later.span fun n => t.span.contains n.span
  let children := match t.content? with
    | none => inside
    | some region => fillGaps region inside
  .token t children :: after

/-- The forest of tokens in reading order. -/
def nest (tokens : List Token) : List Node := tokens.foldr place []

end Node

/-- The claims of several patterns, each claiming in turn. -/
def claimAll (patterns : List Pattern) (text : Text) : Except HighlightError ClaimIndex :=
  patterns.foldlM (fun index p => p.scan text index) .empty

/-- The tree of a text: its nodes cover the text from end to end. -/
def tokenizeWith (patterns : List Pattern) (text : Text) : Except HighlightError (List Node) := do
  let index ← claimAll patterns text
  return Node.fillGaps ⟨0, text⟩ (Node.nest index.tokens)

def tokenize (text : Text) : Except HighlightError (List Node) := tokenizeWith Grammar.markdown text

end MarkdownHighlight
