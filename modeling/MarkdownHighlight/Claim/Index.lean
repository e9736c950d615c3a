import MarkdownHighlight.Claim.SpanTree
import MarkdownHighlight.Token.Basic

/-!
The tokens accepted so far. Claims are disjoint or nested, never crossing, so
those that cover a place form one chain of containment. Each claim names its
innermost container; a query walks that chain from the last claim that starts
at or before the place, and adds the claims that start inside the candidate.
-/

namespace MarkdownHighlight

/-- Disjoint, or one inside the content of the other; a token never nests in
code, and no two tokens cover the same span. -/
def Token.nestsWith (candidate claim : Token) : Bool :=
  candidate.span.disjoint claim.span ||
    (candidate.span != claim.span &&
      ((!candidate.type.isOpaque && candidate.contentSpan?.any (·.contains claim.span)) ||
        (!claim.type.isOpaque && claim.contentSpan?.any (·.contains candidate.span))))

/-- An accepted token with the span of the smallest other claim around it. -/
structure Claim where
  token : Token
  parent? : Option Span

structure ClaimIndex where
  claims : SpanTree Claim

namespace ClaimIndex

def empty : ClaimIndex := ⟨.leaf⟩

/-- A claim, its container, the container of that and so on. -/
def chain (index : ClaimIndex) : Nat → Option Claim → List Claim
  | 0, _ => []
  | _, none => []
  | bound + 1, some claim =>
      claim :: index.chain bound (claim.parent?.bind (index.claims.find? ·))

/-- The claims that contain the byte at `place`, innermost first. -/
def covering (index : ClaimIndex) (place : Nat) : List Claim :=
  (index.chain index.claims.size (index.claims.latestAt? place)).filter
    (place < ·.token.span.stop)

/-- Whether a candidate nests with every claim. -/
def fits (index : ClaimIndex) (candidate : Token) : Bool :=
  (index.covering candidate.span.start ++ index.claims.startingIn candidate.span).all
    fun claim => candidate.nestsWith claim.token

/-- Adds a token that fits. Claims inside it that shared its container move
under it. -/
def insert (index : ClaimIndex) (token : Token) : ClaimIndex :=
  let span := token.span
  let parent? := ((index.covering span.start).find? (span.stop ≤ ·.token.span.stop)).map
    (·.token.span)
  let adopted := (index.claims.startingIn span).filter fun claim =>
    claim.token.span.stop ≤ span.stop && claim.parent? == parent?
  let claims := adopted.foldl (fun tree claim =>
    tree.modify claim.token.span ({ · with parent? := some span })) index.claims
  ⟨claims.insert span ⟨token, parent?⟩⟩

/-- The accepted tokens in reading order. -/
def tokens (index : ClaimIndex) : List Token := index.claims.toList.map (·.2.token)

/-- The end of the outermost code claim around a place. -/
def codeEnd? (index : ClaimIndex) (place : Nat) : Option Nat :=
  (((index.covering place).filter (·.token.type.isOpaque)).map (·.token.span.stop)).max?

end ClaimIndex

end MarkdownHighlight
