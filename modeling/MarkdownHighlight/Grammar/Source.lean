import MarkdownHighlight.Grammar.Markdown

/-!
The written and the matched form of each pattern of the grammar are one
expression: reading the first gives the second.
-/

namespace MarkdownHighlight.Grammar

theorem ofSource?_source (p : Pattern) (member : p ∈ markdown) :
    Regex.ofSource? p.source.toList = some p.regex := by
  have all : ∀ q ∈ markdown, Regex.ofSource? q.source.toList = some q.regex := by decide +kernel
  exact all p member

end MarkdownHighlight.Grammar
