import Mathlib.Data.List.TakeWhile
import MarkdownHighlight.Markup.Escape
import MarkdownHighlight.Proofs.Text.Walk

/-!
Where a text may be cut without changing how it is escaped. Only an ampersand
looks ahead, and only over the characters of an entity reference, so a place is
a seam unless such a reference could reach across it. At a seam the escaped
text is the two escaped parts one after the other.
-/

namespace MarkdownHighlight.Markup

def opensReference (c : Char) : Bool := c == '&' || c == '#' || c.isAlphanum

def continuesReference (c : Char) : Bool := c == '#' || c == ';' || c.isAlphanum

/-- No entity reference reaches over a place between these two characters. -/
def seam (before? after? : Option Char) : Bool :=
  !(before?.any opensReference && after?.any continuesReference)

/-- The text cannot carry on a reference that was begun before it. -/
def Foreign (t : Text) : Prop := ∀ ch, t.head? = some ch → continuesReference ch = false

theorem seam_cases (a b : Text) (seamed : seam a.getLast? b.head? = true) :
    Foreign b ∨ ∀ ch, a.getLast? = some ch → opensReference ch = false := by
  simp only [seam, Bool.not_eq_true', Bool.and_eq_false_iff] at seamed
  rcases seamed with before | after
  · right
    intro ch last
    simpa [last] using before
  · left
    intro ch first
    simpa [first] using after

theorem isAlphanum_iff (c : Char) : c.isAlphanum = true ↔ (65 ≤ c.toNat ∧ c.toNat ≤ 90) ∨
    (97 ≤ c.toNat ∧ c.toNat ≤ 122) ∨ (48 ≤ c.toNat ∧ c.toNat ≤ 57) := by
  change ((decide ('A'.val ≤ c.val ∧ c.val ≤ 'Z'.val) ||
    (decide ('a'.val ≤ c.val) && decide (c.val ≤ 'z'.val))) ||
    (decide ('0'.val ≤ c.val) && decide (c.val ≤ '9'.val))) = true ↔ _
  simp only [Bool.or_eq_true, Bool.and_eq_true, decide_eq_true_eq, UInt32.le_iff_toNat_le]
  rw [or_assoc]
  rfl

theorem isAlphanum_of_isHexDigit (c : Char) (hex : Text.isHexDigit c = true) :
    c.isAlphanum = true := by
  simp only [Text.isHexDigit, Bool.or_eq_true, Bool.and_eq_true, decide_eq_true_eq,
    Char.le_def, UInt32.le_iff_toNat_le] at hex
  rcases hex with (digit | small) | large
  · simp [Char.isAlphanum, digit]
  · have bounds : 97 ≤ c.toNat ∧ c.toNat ≤ 102 := small
    rw [isAlphanum_iff]
    omega
  · have bounds : 65 ≤ c.toNat ∧ c.toNat ≤ 70 := large
    rw [isAlphanum_iff]
    omega

structure ReferenceRun (allowed : Char → Bool) : Prop where
  alphanumeric : ∀ c, allowed c = true → c.isAlphanum = true

theorem ReferenceRun.hex : ReferenceRun Text.isHexDigit := ⟨isAlphanum_of_isHexDigit⟩

theorem ReferenceRun.digit : ReferenceRun Char.isDigit := ⟨fun c digit => by
  simp [Char.isAlphanum, digit]⟩

theorem ReferenceRun.name : ReferenceRun Char.isAlphanum := ⟨fun _ alnum => alnum⟩

variable {allowed : Char → Bool}

theorem ReferenceRun.refuses (run : ReferenceRun allowed) (c : Char)
    (stranger : continuesReference c = false) : allowed c = false := by
  cases permitted : allowed c with
  | false => rfl
  | true => simp [continuesReference, run.alphanumeric c permitted] at stranger

theorem closedRun_of_foreign (run : ReferenceRun allowed) (limit : Nat) (b : Text)
    (foreign : Foreign b) : closedRun allowed limit b = false := by
  cases b with
  | nil => simp [closedRun]
  | cons c rest =>
      have refused := run.refuses c (foreign c rfl)
      simp [closedRun, refused]

/-- A run up to the end of a text is neither longer nor closed by a foreign text. -/
theorem closedRun_append_of_foreign (run : ReferenceRun allowed) (limit : Nat) (a b : Text)
    (all : ∀ ch ∈ a, allowed ch = true) (foreign : Foreign b) :
    closedRun allowed limit (a ++ b) = closedRun allowed limit a := by
  have stop : b.takeWhile allowed = [] ∧ b.dropWhile allowed = b ∧ b.head? ≠ some ';' := by
    cases b with
    | nil => simp
    | cons c rest =>
        have refused := run.refuses c (foreign c rfl)
        refine ⟨by simp [refused], by simp [refused], ?_⟩
        intro closing
        exact absurd (foreign ';' closing) (by decide)
  have rest : a.dropWhile allowed = [] := List.dropWhile_eq_nil_iff.mpr all
  simp [closedRun, List.dropWhile_append_of_pos all, stop.2.1, stop.2.2, rest]

/-- A run that ends within a text does not see what is added to it. -/
theorem closedRun_append_of_refused (limit : Nat) (a b : Text)
    (ends : ∃ ch ∈ a, allowed ch = false) :
    closedRun allowed limit (a ++ b) = closedRun allowed limit a := by
  have some : a.dropWhile allowed ≠ [] := by
    intro none
    obtain ⟨ch, member, refused⟩ := ends
    have permitted := List.dropWhile_eq_nil_iff.mp none ch member
    rw [refused] at permitted
    cases permitted
  have left : (a ++ b).takeWhile allowed = a.takeWhile allowed := by
    rw [List.takeWhile_append, if_neg]
    intro whole
    have all := (List.takeWhile_prefix allowed).eq_of_length whole
    exact some (List.dropWhile_eq_nil_iff.mpr (List.takeWhile_eq_self_iff.mp all))
  have right : (a ++ b).dropWhile allowed = a.dropWhile allowed ++ b := by
    rw [List.dropWhile_append, if_neg]
    simpa using some
  obtain ⟨c, rest, shape⟩ := List.exists_cons_of_ne_nil some
  simp [closedRun, left, right, shape]

theorem closedRun_append (run : ReferenceRun allowed) (limit : Nat) (a b : Text)
    (apart : Foreign b ∨ ∃ ch ∈ a, allowed ch = false) :
    closedRun allowed limit (a ++ b) = closedRun allowed limit a := by
  by_cases all : ∀ ch ∈ a, allowed ch = true
  · rcases apart with foreign | ⟨ch, member, refused⟩
    · exact closedRun_append_of_foreign run limit a b all foreign
    · rw [all ch member] at refused
      cases refused
  · apply closedRun_append_of_refused
    simpa using all

/-- An entity reference by the character that tells its three forms apart. -/
theorem startsEntity_cons (c : Char) (rest : Text) :
    startsEntity (c :: rest) =
      if c = '#' then
        if rest.head? = some 'x' ∨ rest.head? = some 'X' then
          closedRun Text.isHexDigit 6 rest.tail
        else closedRun Char.isDigit 7 rest
      else c.isAlpha && closedRun Char.isAlphanum 32 (c :: rest) := by
  by_cases numeric : c = '#'
  · subst numeric
    rw [if_pos rfl]
    cases rest with
    | nil => simp [startsEntity]
    | cons d rest =>
        by_cases small : d = 'x'
        · subst small
          simp [startsEntity]
        · by_cases large : d = 'X'
          · subst large
            simp [startsEntity]
          · simp [startsEntity, small, large]
  · simp [startsEntity, numeric]

theorem startsEntity_of_foreign (b : Text) (foreign : Foreign b) : startsEntity b = false := by
  cases b with
  | nil => rfl
  | cons c rest =>
      have stranger := foreign c rfl
      simp only [continuesReference, Bool.or_eq_false_iff, beq_eq_false_iff_ne] at stranger
      have alpha : c.isAlpha = false := by
        have := stranger.2
        simp only [Char.isAlphanum, Bool.or_eq_false_iff] at this
        exact this.1
      rw [startsEntity_cons, if_neg stranger.1.1, alpha, Bool.false_and]

/-- A reference that is cut right after one of its inner characters needs more
text, and a seam says that it does not get it. -/
theorem foreign_of_opens (lead : Text) (c : Char) (b : Text)
    (seamed : seam (lead ++ [c]).getLast? b.head? = true) (opens : opensReference c = true) :
    Foreign b := by
  rcases seam_cases _ b seamed with foreign | closed
  · exact foreign
  · have := closed c (by simp)
    rw [opens] at this
    cases this

theorem closedRun_seam (run : ReferenceRun allowed) (limit : Nat) (lead rest b : Text)
    (seamed : seam (lead ++ rest).getLast? b.head? = true) (atEnd : rest = [] → Foreign b) :
    closedRun allowed limit (rest ++ b) = closedRun allowed limit rest := by
  apply closedRun_append run
  by_cases none : rest = []
  · exact Or.inl (atEnd none)
  · rcases seam_cases _ b seamed with foreign | closed
    · exact Or.inl foreign
    · right
      have last : (lead ++ rest).getLast? = some (rest.getLast none) := by
        rw [List.getLast?_append, List.getLast?_eq_some_getLast none]
        rfl
      refine ⟨rest.getLast none, List.getLast_mem none, ?_⟩
      have stranger := closed _ last
      cases permitted : allowed (rest.getLast none) with
      | false => rfl
      | true => simp [opensReference, run.alphanumeric _ permitted] at stranger

theorem startsEntity_append (c : Char) (rest b : Text)
    (seamed : seam (c :: rest).getLast? b.head? = true) :
    startsEntity (c :: (rest ++ b)) = startsEntity (c :: rest) := by
  rw [startsEntity_cons, startsEntity_cons]
  by_cases numeric : c = '#'
  · subst numeric
    rw [if_pos rfl, if_pos rfl]
    cases rest with
    -- A lone number sign: what follows it may not even begin a number.
    | nil =>
        have foreign := foreign_of_opens [] '#' b seamed (by decide)
        have unmarked : ¬ (b.head? = some 'x' ∨ b.head? = some 'X') := by
          rintro (small | large)
          · exact absurd (foreign 'x' small) (by decide)
          · exact absurd (foreign 'X' large) (by decide)
        rw [List.nil_append, if_neg unmarked, closedRun_of_foreign .digit 7 b foreign]
        rfl
    | cons d rest =>
        rw [List.cons_append, List.head?_cons, List.head?_cons, List.tail_cons, List.tail_cons]
        -- The number is read behind the mark, but the seam is the one of the whole reference.
        by_cases marked : some d = some 'x' ∨ some d = some 'X'
        · rw [if_pos marked, if_pos marked]
          apply closedRun_seam .hex 6 ['#', d] rest b seamed
          rintro rfl
          apply foreign_of_opens ['#'] d b seamed
          rcases marked with small | large
          · rw [Option.some.inj small]
            decide
          · rw [Option.some.inj large]
            decide
        · rw [if_neg marked, if_neg marked]
          exact closedRun_seam .digit 7 ['#'] (d :: rest) b seamed (by simp)
  · rw [if_neg numeric, if_neg numeric]
    have names := closedRun_seam .name 32 [] (c :: rest) b seamed (by simp)
    rw [List.cons_append] at names
    rw [names]

/-- Escaping two parts on their own is escaping them together. -/
theorem escape_append (a b : Text) (seamed : seam a.getLast? b.head? = true) :
    escape (a ++ b) = escape a ++ escape b := by
  induction a with
  | nil => rfl
  | cons c rest ih =>
      -- Only an ampersand looks at what follows it, and only for an entity reference.
      have same : escapeChar c (rest ++ b) = escapeChar c rest := by
        by_cases ampersand : c = '&'
        · subst ampersand
          have entity : startsEntity (rest ++ b) = startsEntity rest := by
            cases rest with
            | nil =>
                rcases seam_cases ['&'] b seamed with foreign | closed
                · exact startsEntity_of_foreign b foreign
                · exact absurd (closed '&' rfl) (by decide)
            | cons d rest =>
                apply startsEntity_append d rest b
                rwa [List.getLast?_cons_cons] at seamed
          rw [escapeChar, escapeChar, entity]
        · simp [escapeChar, ampersand]
      -- The seam is that of the last character, which the rest keeps unless it is empty.
      have inner : escape (rest ++ b) = escape rest ++ escape b := by
        cases rest with
        | nil => rfl
        | cons d rest => exact ih (by rwa [List.getLast?_cons_cons] at seamed)
      rw [List.cons_append, escape, escape, same, inner, List.append_assoc]

end MarkdownHighlight.Markup
