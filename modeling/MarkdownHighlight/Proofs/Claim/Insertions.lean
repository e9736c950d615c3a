import MarkdownHighlight.Proofs.Claim.Scan

/-!
What an index tells of the tokens that were inserted, whatever their types and their order,
as long as each fitted when its turn came. No two of them cross, each has its smallest
container noted, the claims over a place are found from the inside out, a candidate fits when
it nests with all of them, and they come out in reading order. A token that is inserted late
and lies around earlier ones takes their place among the claims of its own container.
-/

namespace MarkdownHighlight.ClaimIndex

inductive MadeOf : ClaimIndex → List Token → Prop
  | empty : MadeOf .empty []
  | insert {index : ClaimIndex} {inserted : List Token} {t : Token}
      (made : MadeOf index inserted) (solid : t.Solid) (fits : index.fits t = true) :
      MadeOf (index.insert t) (inserted ++ [t])

structure Exact (index : ClaimIndex) (inserted : List Token) : Prop where
  apart : inserted.Pairwise fun t u => t.span.Laminar u.span ∧ t.span ≠ u.span
  /-- The noted container is the smallest of the other tokens around a token. -/
  parents : ∀ c ∈ index.all, Span.Innermost (inserted.map (·.span)) c.token.span c.parent?
  /-- The tokens over a place grow along the list, so none is in it twice. -/
  covering : ∀ place,
    ((index.covering place).map (·.token)).Pairwise
        (fun inner outer => outer.span.encloses inner.span = true) ∧
      ∀ t, t ∈ (index.covering place).map (·.token) ↔
        t ∈ inserted ∧ t.span.start ≤ place ∧ place < t.span.stop
  fits : ∀ candidate, index.fits candidate = true ↔
    ∀ t ∈ inserted, candidate.nestsWith t = true
  /-- Each token comes out once, by its start and of two with one start the longer first. -/
  sorted : index.tokens.Perm inserted ∧
    index.tokens.Pairwise fun t u => t.span.precedes u.span = true

variable {index : ClaimIndex} {inserted : List Token}

theorem MadeOf.mirrors (made : MadeOf index inserted) : index.Mirrors inserted := by
  induction made with
  | empty => exact ⟨empty_valid, .nil⟩
  | insert _ solid fits ih => exact ih.insert solid ((ih.fits_iff _).symm.trans fits)

namespace Mirrors

variable (mirrors : index.Mirrors inserted)

include mirrors

theorem mem_iff (t : Token) : t ∈ inserted ↔ ∃ c ∈ index.all, c.token = t := by
  rw [← mirrors.same.mem_iff, tokens_eq, List.mem_map]

theorem apart : inserted.Pairwise fun t u => t.span.Laminar u.span ∧ t.span ≠ u.span := by
  rw [← mirrors.same.pairwise_iff fun ⟨laminar, differ⟩ => ⟨laminar.symm, differ.symm⟩]
  apply mirrors.valid.arranged.imp_of_mem
  rintro t u first second ⟨_, nests⟩
  rw [mirrors.same.mem_iff, mirrors.mem_iff] at first second
  obtain ⟨c, present, rfl⟩ := first
  obtain ⟨d, present', rfl⟩ := second
  exact Token.laminar_of_nestsWith (mirrors.valid.solid c present) (mirrors.valid.solid d present')
    nests

theorem parents (c : Claim) (present : c ∈ index.all) :
    Span.Innermost (inserted.map (·.span)) c.token.span c.parent? := by
  have same : ∀ s, s ∈ index.spans ↔ s ∈ inserted.map (·.span) := by
    intro s
    simp only [spans, List.mem_map, mirrors.mem_iff]
    constructor
    · rintro ⟨d, there, rfl⟩
      exact ⟨_, ⟨d, there, rfl⟩, rfl⟩
    · rintro ⟨_, ⟨d, there, rfl⟩, rfl⟩
      exact ⟨d, there, rfl⟩
  exact (mirrors.valid.parented c present).congr same

theorem covering (place : Nat) :
    ((index.covering place).map (·.token)).Pairwise
        (fun inner outer => outer.span.encloses inner.span = true) ∧
      ∀ t, t ∈ (index.covering place).map (·.token) ↔
        t ∈ inserted ∧ t.span.start ≤ place ∧ place < t.span.stop := by
  refine ⟨List.pairwise_map.mpr (mirrors.valid.pairwise_covering place), fun t => ?_⟩
  simp only [List.mem_map, mirrors.valid.mem_covering_iff, mirrors.mem_iff]
  constructor
  · rintro ⟨c, ⟨present, within⟩, rfl⟩
    exact ⟨⟨c, present, rfl⟩, within⟩
  · rintro ⟨⟨c, present, rfl⟩, within⟩
    exact ⟨c, ⟨present, within⟩, rfl⟩

end Mirrors

/-- An index is exact after any insertions of tokens that fit. -/
theorem MadeOf.exact (made : MadeOf index inserted) : index.Exact inserted where
  apart := made.mirrors.apart
  parents := made.mirrors.parents
  covering := made.mirrors.covering
  fits := fun candidate => by rw [made.mirrors.fits_iff, Plain.admits, List.all_eq_true]
  sorted := ⟨made.mirrors.same, made.mirrors.valid.arranged.imp fun arranged => arranged.1⟩

/-- A quotation comes after the bold text in it, and the italic text between them comes last:
the bold text is moved twice. -/
theorem MadeOf.exact_between :
    let bold : Token := ⟨.bold "b".toList "**".toList, ⟨5, "**b**".toList⟩,
      [⟨.marker, ⟨5, 7⟩⟩, ⟨.content, ⟨7, 8⟩⟩, ⟨.marker, ⟨8, 10⟩⟩]⟩
    let quote : Token := ⟨.blockquote 1 0 "*a **b** c*".toList, ⟨0, "> *a **b** c*".toList⟩,
      [⟨.marker, ⟨0, 2⟩⟩, ⟨.content, ⟨2, 13⟩⟩]⟩
    let italic : Token := ⟨.italic "a **b** c".toList "*".toList, ⟨2, "*a **b** c*".toList⟩,
      [⟨.marker, ⟨2, 3⟩⟩, ⟨.content, ⟨3, 12⟩⟩, ⟨.marker, ⟨12, 13⟩⟩]⟩
    let index := ((ClaimIndex.empty.insert bold).insert quote).insert italic
    MadeOf index [bold, quote, italic] ∧ index.Exact [bold, quote, italic] ∧
      index.all.map (fun c => (c.token.span, c.parent?)) =
        [(⟨0, 13⟩, none), (⟨2, 13⟩, some ⟨0, 13⟩), (⟨5, 10⟩, some ⟨2, 13⟩)] ∧
      (index.covering 7).map (·.token) = [bold, italic, quote] := by
  intro bold quote italic index
  have solid : bold.Solid ∧ quote.Solid ∧ italic.Solid :=
    ⟨⟨by decide, by rintro _ ⟨⟩; decide⟩, ⟨by decide, by rintro _ ⟨⟩; decide⟩,
      ⟨by decide, by rintro _ ⟨⟩; decide⟩⟩
  have first : MadeOf (ClaimIndex.empty.insert bold) [bold] :=
    MadeOf.empty.insert solid.1 (by decide)
  have around : MadeOf ((ClaimIndex.empty.insert bold).insert quote) [bold, quote] :=
    first.insert solid.2.1 (by decide)
  have made : MadeOf index [bold, quote, italic] := around.insert solid.2.2 (by decide)
  exact ⟨made, made.exact, by decide, by decide⟩

end MarkdownHighlight.ClaimIndex
