import MarkdownHighlight.Claim.Index
import MarkdownHighlight.Proofs.Text.Tiles

/-!
Spans that are disjoint or nested. Two tokens that nest with each other never
cross, so the spans around a given one form a chain, and it makes sense to ask
for the innermost of them. Adding a span to such a family changes the innermost
container of those inside it that shared its own container, and of no other.
-/

namespace MarkdownHighlight

namespace Span

def encloses (outer inner : Span) : Bool := outer.contains inner && outer != inner

theorem encloses_iff (outer inner : Span) :
    outer.encloses inner = true ↔ outer.start ≤ inner.start ∧ inner.stop ≤ outer.stop ∧
      (outer.start ≠ inner.start ∨ outer.stop ≠ inner.stop) := by
  obtain ⟨outerStart, outerStop⟩ := outer
  obtain ⟨innerStart, innerStop⟩ := inner
  simp only [encloses, Bool.and_eq_true, contains_iff, bne_iff_ne, ne_eq, Span.mk.injEq]
  omega

theorem encloses_trans {a b c : Span} (first : a.encloses b = true) (second : b.encloses c = true) :
    a.encloses c = true := by
  rw [encloses_iff] at *
  omega

theorem not_encloses_self (a : Span) : a.encloses a = false := by
  simp [encloses]

theorem encloses_or_eq_of_contains {a b : Span} (contained : a.contains b = true) :
    a.encloses b = true ∨ a = b := by
  by_cases same : a = b
  · exact Or.inr same
  · exact Or.inl (by simpa [encloses, same] using contained)

def Laminar (a b : Span) : Prop :=
  a.stop ≤ b.start ∨ b.stop ≤ a.start ∨ a.contains b = true ∨ b.contains a = true

theorem Laminar.symm {a b : Span} (laminar : a.Laminar b) : b.Laminar a := by
  unfold Laminar at *
  rcases laminar with before | after | outside | inside
  · exact Or.inr (Or.inl before)
  · exact Or.inl after
  · exact Or.inr (Or.inr (Or.inr outside))
  · exact Or.inr (Or.inr (Or.inl inside))

def Innermost (spans : List Span) (inner : Span) : Option Span → Prop
  | none => ∀ s ∈ spans, s.encloses inner = false
  | some parent => parent ∈ spans ∧ parent.encloses inner = true ∧
      ∀ s ∈ spans, s.encloses inner = true → s.contains parent = true

theorem Innermost.congr {spans spans' : List Span} {inner : Span} {parent? : Option Span}
    (innermost : Innermost spans inner parent?) (same : ∀ s, s ∈ spans ↔ s ∈ spans') :
    Innermost spans' inner parent? := by
  cases parent? with
  | none => exact fun s present => innermost s ((same s).mpr present)
  | some parent =>
      obtain ⟨present, around, smallest⟩ := innermost
      exact ⟨(same parent).mp present, around, fun s there => smallest s ((same s).mpr there)⟩

section Addition

variable {spans spans' : List Span} {new inner : Span} {parent? : Option Span}

theorem Innermost.add_elsewhere (innermost : Innermost spans inner parent?)
    (added : ∀ s, s ∈ spans' ↔ s = new ∨ s ∈ spans) (apart : new.encloses inner = false) :
    Innermost spans' inner parent? := by
  cases parent? with
  | none =>
      intro s present
      rcases (added s).mp present with rfl | old
      · exact apart
      · exact innermost s old
  | some parent =>
      obtain ⟨old, around, smallest⟩ := innermost
      refine ⟨(added parent).mpr (Or.inr old), around, fun s present enclosing => ?_⟩
      rcases (added s).mp present with rfl | old
      · rw [apart] at enclosing
        cases enclosing
      · exact smallest s old enclosing

/-- Spans inside the new one that shared its container move under it. -/
theorem Innermost.add_between (innermost : Innermost spans inner parent?)
    (shared : Innermost spans new parent?)
    (added : ∀ s, s ∈ spans' ↔ s = new ∨ s ∈ spans) (around : new.encloses inner = true) :
    Innermost spans' inner (some new) := by
  refine ⟨(added new).mpr (Or.inl rfl), around, fun s present enclosing => ?_⟩
  rcases (added s).mp present with rfl | old
  · simp
  · cases parent? with
    | none =>
        rw [innermost s old] at enclosing
        cases enclosing
    | some parent =>
        have outer := innermost.2.2 s old enclosing
        have inside := shared.2.1
        rw [contains_iff] at outer ⊢
        rw [encloses_iff] at inside
        omega

/-- Spans inside the new one with another container keep it: it lies inside too. -/
theorem Innermost.add_around (innermost : Innermost spans inner parent?)
    {other? : Option Span} (differs : parent? ≠ other?) (distinct : Innermost spans new other?)
    (added : ∀ s, s ∈ spans' ↔ s = new ∨ s ∈ spans) (around : new.encloses inner = true)
    (laminar : ∀ s ∈ spans, s.Laminar new ∧ s ≠ new) (some : inner.start < inner.stop) :
    Innermost spans' inner parent? := by
  cases parent? with
  | none =>
      cases other? with
      | none => exact absurd rfl differs
      | some other =>
          have := innermost other distinct.1
          rw [encloses_trans distinct.2.1 around] at this
          cases this
  | some parent =>
      obtain ⟨old, held, smallest⟩ := innermost
      refine ⟨(added parent).mpr (Or.inr old), held, fun s present enclosing => ?_⟩
      rcases (added s).mp present with rfl | older
      · obtain ⟨nested, other⟩ := laminar parent old
        -- If the old container were around the new span too, it would be the container of
        -- both, and the two containers would not differ.
        by_cases outside : parent.encloses s = true
        · exfalso
          cases other? with
          | none =>
              have := distinct parent old
              rw [outside] at this
              cases this
          | some middle =>
              have outer := smallest middle distinct.1 (encloses_trans distinct.2.1 around)
              have inner := distinct.2.2 parent old outside
              rw [contains_iff] at outer inner
              have same : parent = middle := eq_of_ends _ _ (by omega) (by omega)
              exact differs (by rw [same])
        · rcases nested with before | after | outer | inside
          · rw [encloses_iff] at around held
            omega
          · rw [encloses_iff] at around held
            omega
          · rcases encloses_or_eq_of_contains outer with enclosing' | same
            · exact absurd enclosing' outside
            · exact absurd same other
          · exact inside
      · exact smallest s older enclosing

end Addition

end Span

namespace Token

structure Solid (t : Token) : Prop where
  nonempty : t.span.start < t.span.stop
  content : ∀ inner, t.contentSpan? = some inner → t.span.contains inner = true

theorem nestsWith_comm (a b : Token) : a.nestsWith b = b.nestsWith a := by
  simp only [nestsWith, Span.disjoint_comm a.span, bne_comm (a := a.span), Bool.or_comm]

/-- `inner` lies in the content of `outer`, and that may hold other tokens. -/
def holds (outer inner : Token) : Bool :=
  !outer.type.isOpaque && outer.contentSpan?.any (·.contains inner.span)

theorem nestsWith_iff (a b : Token) :
    a.nestsWith b = true ↔ a.span.disjoint b.span = true ∨
      (a.span ≠ b.span ∧ (a.holds b = true ∨ b.holds a = true)) := by
  simp [nestsWith, holds]

theorem content_of_holds {outer inner : Token} (held : outer.holds inner = true) :
    ∃ content, outer.contentSpan? = some content ∧ content.contains inner.span = true := by
  rw [holds, Bool.and_eq_true, Option.any_eq_true] at held
  exact held.2

theorem Solid.contains_of_holds {outer inner : Token} (solid : outer.Solid)
    (held : outer.holds inner = true) : outer.span.contains inner.span = true := by
  obtain ⟨content, found, inside⟩ := content_of_holds held
  have within := solid.content content found
  rw [Span.contains_iff] at within inside ⊢
  omega

theorem laminar_of_nestsWith {a b : Token} (first : a.Solid) (second : b.Solid)
    (nests : a.nestsWith b = true) : a.span.Laminar b.span ∧ a.span ≠ b.span := by
  rcases (nestsWith_iff a b).mp nests with apart | ⟨differ, outer | inner⟩
  · rw [Span.disjoint_iff] at apart
    have := first.nonempty
    refine ⟨apart.imp id Or.inl, fun same => ?_⟩
    rw [same] at apart this
    omega
  · exact ⟨Or.inr (Or.inr (Or.inl (first.contains_of_holds outer))), differ⟩
  · exact ⟨Or.inr (Or.inr (Or.inr (second.contains_of_holds inner))), differ⟩

end Token

end MarkdownHighlight
