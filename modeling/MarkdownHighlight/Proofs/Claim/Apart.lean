import MarkdownHighlight.Proofs.Claim.Plain

/-!
Tokens of one type stand apart. A pattern goes on behind what it accepts, so its matches
follow each other, and no other pattern makes tokens of its type.
-/

namespace MarkdownHighlight

def Token.ApartInType (t u : Token) : Prop := t.type = u.type → t.span.disjoint u.span = true

namespace Plain

section Scan

variable {p : Pattern} {initial accepted : List Token} {start c : Cursor}

theorem Reached.apart (lawful : p.Lawful) (reached : Reached p initial start accepted c)
    (fresh : ∀ t ∈ initial, t.type ≠ p.type) (apart : initial.Pairwise Token.ApartInType) :
    accepted.Pairwise Token.ApartInType := by
  induction reached with
  | start => exact apart
  | claim before claimed ih =>
      obtain ⟨m, _, reads, _, _⟩ := (claimAt?_eq_some_iff lawful _ _).mp claimed
      refine List.pairwise_append.mpr ⟨ih, List.pairwise_singleton _ _, ?_⟩
      intro t old u new same
      rw [List.mem_singleton.mp new] at same ⊢
      rw [Span.disjoint_iff, reads.span_eq]
      rcases before.cases_of_mem lawful t old with other | ⟨_, behind⟩
      · exact absurd (same.trans reads.type_eq) (fresh t other)
      · exact Or.inl behind
  | step _ _ _ ih => exact ih

theorem foldl_apart {patterns : List Pattern} {text : Text}
    (lawful : ∀ p ∈ patterns, p.Lawful)
    (distinct : patterns.Pairwise fun p q => p.type ≠ q.type)
    (fresh : ∀ t ∈ initial, ∀ p ∈ patterns, t.type ≠ p.type)
    (apart : initial.Pairwise Token.ApartInType) :
    (patterns.foldl (fun accepted p => scanFrom p accepted (.atStart text)) initial).Pairwise
      Token.ApartInType := by
  induction patterns generalizing initial with
  | nil => exact apart
  | cons p later ih =>
      obtain ⟨reads, lawful⟩ := List.forall_mem_cons.mp lawful
      obtain ⟨other, distinct⟩ := List.pairwise_cons.mp distinct
      obtain ⟨d, reached⟩ := reached_scanFrom p initial (.atStart text)
      have known := reached.apart reads (fun t inside => fresh t inside p List.mem_cons_self) apart
      refine ih lawful distinct (fun t inside q coming => ?_) known
      rcases mem_scanFrom_cases reads inside with old | type
      · exact fresh t old q (List.mem_cons_of_mem p coming)
      · rw [type]
        exact other q coming

theorem accept_apart (text : Text) :
    (accept Grammar.markdown text).Pairwise Token.ApartInType :=
  foldl_apart Grammar.markdown_lawful (by decide) nofun List.Pairwise.nil

end Scan

end Plain

end MarkdownHighlight
