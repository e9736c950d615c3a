import MarkdownHighlight.Document.Highlight
import MarkdownHighlight.Proofs.Grammar.Forms
import MarkdownHighlight.Proofs.Text.Lines

/-!
Fences, line by line. A block starts at a line with an opening fence and ends at a
closing fence further down, and what decides which one is a rule for the lines behind
the opening. The natural rule takes the first closing fence. The other one here takes
the first that leaves a line in between, and only if there is none the fence that
follows at once. The two part where an empty block has a closing fence behind it.
-/

namespace MarkdownHighlight

open Grammar (fence)

def opensFence (line : Text) : Bool := fence.isPrefixOf line

def closesFence (line : Text) : Bool :=
  fence.isPrefixOf line && (line.drop fence.length).all ([' ', '\t', '\r'].contains ·)

def firstClosing? (later : List Text) : Option Nat := later.findIdx? closesFence

/-- The same for the closing fence of a block that should rather not be empty. -/
def remoteClosing? (later : List Text) : Option Nat :=
  match later.tail.findIdx? closesFence with
  | some n => some (n + 1)
  | none => if later.head?.any closesFence then some 0 else none

structure Fenced where
  ahead : List Text
  lines : List Text
  behind : List Text
  deriving DecidableEq, Repr

namespace Fenced

def source (b : Fenced) : Excerpt := ⟨(linesBefore id b.ahead).size, Text.joinLines b.lines⟩

def blocksFrom (closing? : List Text → Option Nat) (ahead : List Text) : List Text → List Fenced
  | [] => []
  | line :: later =>
      match if opensFence line then closing? later else none with
      | some n =>
          ⟨ahead, line :: later.take (n + 1), later.drop (n + 1)⟩ ::
            blocksFrom closing? (ahead ++ line :: later.take (n + 1)) (later.drop (n + 1))
      | none => blocksFrom closing? (ahead ++ [line]) later
  termination_by lines => lines.length

def blocks (closing? : List Text → Option Nat) (lines : List Text) : List Fenced :=
  blocksFrom closing? [] lines

end Fenced

/-- The lines inside a block, its last line and those behind it: the first line inside
may be a closing fence but no other, and for an empty block there is none behind it. -/
structure RemotelyClosed (inner : List Text) (closing : Text) (behind : List Text) : Prop where
  closes : closesFence closing = true
  inside : ∀ line ∈ inner.tail, closesFence line = false
  last : inner = [] → ∀ line ∈ behind, closesFence line = false

section Closing

variable {opening closing line : Text} {ahead inner behind later : List Text}

theorem firstClosing?_append (clean : ∀ line ∈ inner, closesFence line = false)
    (closes : closesFence closing = true) :
    firstClosing? (inner ++ closing :: behind) = some inner.length := by
  have missing : inner.findIdx? closesFence = none := by simpa using clean
  rw [firstClosing?, List.findIdx?_append, missing, List.findIdx?_cons, closes]
  simp

theorem firstClosing?_eq_none (clean : ∀ line ∈ later, closesFence line = false) :
    firstClosing? later = none := by
  simpa [firstClosing?] using clean

theorem RemotelyClosed.remoteClosing? (closed : RemotelyClosed inner closing behind) :
    remoteClosing? (inner ++ closing :: behind) = some inner.length := by
  cases inner with
  | nil =>
      have missing := firstClosing?_eq_none (closed.last rfl)
      rw [firstClosing?] at missing
      simp [MarkdownHighlight.remoteClosing?, missing, closed.closes]
  | cons first others =>
      have found : firstClosing? (others ++ closing :: behind) = some others.length :=
        firstClosing?_append closed.inside closed.closes
      rw [firstClosing?] at found
      simp [MarkdownHighlight.remoteClosing?, found]

/-- Either the first closing fence is that of the block, or it follows at once. -/
theorem RemotelyClosed.clean_or_early (closed : RemotelyClosed inner closing behind) :
    (∀ line ∈ inner, closesFence line = false) ∨
      ∃ next others, inner = next :: others ∧ closesFence next = true := by
  cases inner with
  | nil => exact Or.inl nofun
  | cons next others =>
      cases closes : closesFence next with
      | true => exact Or.inr ⟨next, others, rfl, closes⟩
      | false => exact Or.inl (List.forall_mem_cons.mpr ⟨closes, closed.inside⟩)

theorem remoteClosing?_eq_none (clean : ∀ line ∈ later, closesFence line = false) :
    remoteClosing? later = none := by
  cases later with
  | nil => rfl
  | cons first others =>
      obtain ⟨here, there⟩ := List.forall_mem_cons.mp clean
      have missing := firstClosing?_eq_none there
      rw [firstClosing?] at missing
      simp [remoteClosing?, missing, here]

/-- Of some lines one closes a block before them, or none is a closing fence. -/
theorem exists_remotelyClosed (later : List Text) :
    (∃ inner closing behind, later = inner ++ closing :: behind ∧
      RemotelyClosed inner closing behind) ∨ ∀ line ∈ later, closesFence line = false := by
  cases later with
  | nil => exact Or.inr nofun
  | cons first others =>
      cases found : others.find? closesFence with
      | some closing =>
          obtain ⟨closes, inner, behind, rfl, clean⟩ := List.find?_eq_some_iff_append.mp found
          exact Or.inl ⟨first :: inner, closing, behind, rfl, closes, by simpa using clean, nofun⟩
      | none =>
          have clean : ∀ line ∈ others, closesFence line = false := by simpa using found
          cases closes : closesFence first with
          | true => exact Or.inl ⟨[], first, others, rfl, closes, nofun, fun _ => clean⟩
          | false => exact Or.inr (List.forall_mem_cons.mpr ⟨closes, clean⟩)

namespace Fenced

variable {closing? : List Text → Option Nat}

theorem blocksFrom_nil : blocksFrom closing? ahead [] = [] := by
  rw [blocksFrom]

theorem blocksFrom_block (opens : opensFence opening = true)
    (found : closing? (inner ++ closing :: behind) = some inner.length) :
    blocksFrom closing? ahead (opening :: (inner ++ closing :: behind)) =
      ⟨ahead, opening :: (inner ++ [closing]), behind⟩ ::
        blocksFrom closing? (ahead ++ opening :: (inner ++ [closing])) behind := by
  have upTo : (inner ++ closing :: behind).take (inner.length + 1) = inner ++ [closing] := by
    simp [List.take_append, List.take_of_length_le]
  have from' : (inner ++ closing :: behind).drop (inner.length + 1) = behind := by
    simp [List.drop_append]
  rw [blocksFrom, if_pos opens, found]
  simp only [upTo, from']

theorem blocksFrom_plain (plain : opensFence line = true → closing? later = none) :
    blocksFrom closing? ahead (line :: later) = blocksFrom closing? (ahead ++ [line]) later := by
  rw [blocksFrom]
  cases opens : opensFence line with
  | true => rw [if_pos rfl, plain opens]
  | false => rw [if_neg Bool.false_ne_true]

theorem line_cases (line : Text) (later : List Text) :
    (opensFence line = true ∧ ∃ inner closing behind, later = inner ++ closing :: behind ∧
      RemotelyClosed inner closing behind) ∨
      (opensFence line = true → ∀ other ∈ later, closesFence other = false) := by
  cases opens : opensFence line with
  | false => exact Or.inr nofun
  | true =>
      rcases exists_remotelyClosed later with closed | clean
      · exact Or.inl ⟨rfl, closed⟩
      · exact Or.inr fun _ => clean

/-- Lines are read from the top: a block at a time, or a line that opens none. -/
@[elab_as_elim]
theorem lines_induction {motive : List Text → List Text → Prop} (nil : ∀ ahead, motive ahead [])
    (block : ∀ ahead opening inner closing behind, opensFence opening = true →
      RemotelyClosed inner closing behind →
      motive (ahead ++ opening :: (inner ++ [closing])) behind →
      motive ahead (opening :: (inner ++ closing :: behind)))
    (plain : ∀ ahead line later,
      (opensFence line = true → ∀ other ∈ later, closesFence other = false) →
      motive (ahead ++ [line]) later → motive ahead (line :: later))
    (ahead lines : List Text) : motive ahead lines := by
  induction size : lines.length using Nat.strongRecOn generalizing ahead lines with
  | ind n ih =>
      cases lines with
      | nil => exact nil ahead
      | cons line later =>
          rcases line_cases line later with ⟨opens, inner, closing, behind, rfl, closed⟩ | unopened
          · apply block ahead line inner closing behind opens closed
            apply ih behind.length _ _ _ rfl
            rw [← size]
            simp only [List.length_cons, List.length_append]
            omega
          · exact plain ahead line later unopened
              (ih later.length (by rw [← size]; exact Nat.lt_succ_self _) _ _ rfl)

structure Formed (lines : List Text) (b : Fenced) : Prop where
  split : lines = b.ahead ++ b.lines ++ b.behind
  form : ∃ opening inner closing, b.lines = opening :: (inner ++ [closing]) ∧
    opensFence opening = true ∧ closesFence closing = true ∧
    ∀ line ∈ inner.tail, closesFence line = false

theorem blocksFrom_formed (ahead lines : List Text) :
    ∀ b ∈ blocksFrom remoteClosing? ahead lines, b.Formed (ahead ++ lines) := by
  induction ahead, lines using lines_induction with
  | nil ahead => simp [blocksFrom_nil]
  | block ahead opening inner closing behind opens closed ih =>
      have split : ahead ++ opening :: (inner ++ closing :: behind) =
          ahead ++ opening :: (inner ++ [closing]) ++ behind := by simp
      rw [blocksFrom_block opens closed.remoteClosing?, split]
      refine List.forall_mem_cons.mpr ⟨⟨rfl, ?_⟩, ih⟩
      exact ⟨opening, inner, closing, rfl, opens, closed.closes, closed.inside⟩
  | plain ahead line later unopened ih =>
      have split : ahead ++ line :: later = ahead ++ [line] ++ later := by simp
      rw [blocksFrom_plain fun opens => remoteClosing?_eq_none (unopened opens), split]
      exact ih

theorem joinLines_ne_of_longer (opening line closing : Text) (others : List Text) :
    Text.joinLines (opening :: line :: (others ++ [closing])) ≠
      Text.joinLines [opening, line] := by
  intro same
  have longer := congrArg List.length same
  rw [Text.joinLines_cons_cons, Text.joinLines_cons_cons, Text.joinLines_singleton,
    Text.joinLines_cons line _ (by simp)] at longer
  simp only [List.length_append, List.length_cons] at longer
  omega

/-- The two rules make the same blocks unless an empty one has a closing fence behind it. -/
theorem sources_eq_iff (ahead lines : List Text) :
    (blocksFrom remoteClosing? ahead lines).map source =
        (blocksFrom firstClosing? ahead lines).map source ↔
      ∀ b ∈ blocksFrom firstClosing? ahead lines, b.lines.length = 2 →
        ∀ line ∈ b.behind, closesFence line = false := by
  induction ahead, lines using lines_induction with
  | nil ahead => simp [blocksFrom_nil]
  | block ahead opening inner closing behind opens closed ih =>
      rw [blocksFrom_block opens closed.remoteClosing?]
      rcases closed.clean_or_early with clean | ⟨next, others, rfl, closes⟩
      · have settled : (opening :: (inner ++ [closing])).length = 2 →
            ∀ line ∈ behind, closesFence line = false := by
          intro short
          exact closed.last (List.eq_nil_of_length_eq_zero (by simpa using short))
        rw [blocksFrom_block opens (firstClosing?_append clean closed.closes), List.map_cons,
          List.map_cons, List.cons.injEq, List.forall_mem_cons, ih]
        simp only [true_and, iff_and_self]
        exact fun _ => settled
      · -- One rule stops at the fence that follows at once, the other does not.
        have found : firstClosing? ([] ++ next :: (others ++ closing :: behind)) = some 0 :=
          firstClosing?_append nofun closes
        have shape : next :: others ++ closing :: behind =
            [] ++ next :: (others ++ closing :: behind) := rfl
        rw [shape, blocksFrom_block opens found]
        apply iff_of_false
        · intro same
          have texts := congrArg Excerpt.text (List.cons.inj same).1
          exact joinLines_ne_of_longer opening next closing others texts
        · intro settled
          have open' := (List.forall_mem_cons.mp settled).1 rfl closing (by simp)
          rw [closed.closes] at open'
          cases open'
  | plain ahead line later unopened ih =>
      rw [blocksFrom_plain fun opens => remoteClosing?_eq_none (unopened opens),
        blocksFrom_plain fun opens => firstClosing?_eq_none (unopened opens)]
      exact ih

end Fenced

end Closing

end MarkdownHighlight
