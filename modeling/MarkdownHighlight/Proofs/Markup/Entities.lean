import MarkdownHighlight.Proofs.Markup.Seam

/-!
Entity references, told without a search: three forms, each with its own digits or letters
and a limit to them. What looks for the end of a run of characters recognises exactly these.
-/

namespace MarkdownHighlight.Markup

/-- An entity reference without its ampersand: a code of one to six hexadecimal or one to
seven decimal digits, or a name of up to 32 letters and digits that begins with a letter. -/
inductive EntityReference : Text → Prop
  | hexadecimal {sign : Char} {digits : Text} (known : sign = 'x' ∨ sign = 'X')
      (all : ∀ ch ∈ digits, Text.isHexDigit ch = true) (some : 1 ≤ digits.length)
      (limit : digits.length ≤ 6) : EntityReference ('#' :: sign :: (digits ++ [';']))
  | decimal {digits : Text} (all : ∀ ch ∈ digits, ch.isDigit = true) (some : 1 ≤ digits.length)
      (limit : digits.length ≤ 7) : EntityReference ('#' :: (digits ++ [';']))
  | named {first : Char} {others : Text} (letter : first.isAlpha = true)
      (all : ∀ ch ∈ others, ch.isAlphanum = true) (limit : others.length < 32) :
      EntityReference (first :: (others ++ [';']))

def BeginsReference (rest : Text) : Prop :=
  ∃ reference later, rest = reference ++ later ∧ EntityReference reference

section References

variable {allowed : Char → Bool} {limit : Nat} {rest : Text}

/-- The longest run is the only one that a semicolon can close. -/
theorem closedRun_iff (open' : allowed ';' = false) : closedRun allowed limit rest = true ↔
    ∃ run later, rest = run ++ ';' :: later ∧ (∀ ch ∈ run, allowed ch = true) ∧
      1 ≤ run.length ∧ run.length ≤ limit := by
  constructor
  · intro closed
    obtain ⟨later, ended⟩ : ∃ later, rest.dropWhile allowed = ';' :: later := by
      simp only [closedRun, Bool.and_eq_true, beq_iff_eq] at closed
      exact List.head?_eq_some_iff.mp closed.2
    simp only [closedRun, Bool.and_eq_true, decide_eq_true_eq] at closed
    refine ⟨rest.takeWhile allowed, later, ?_, fun ch => List.mem_takeWhile_imp, closed.1⟩
    rw [← ended, List.takeWhile_append_dropWhile]
  · rintro ⟨run, later, rfl, all, some, short⟩
    have taken : (run ++ ';' :: later).takeWhile allowed = run := by
      rw [List.takeWhile_append_of_pos all, List.takeWhile_cons_of_neg (by simp [open']),
        List.append_nil]
    have dropped : (run ++ ';' :: later).dropWhile allowed = ';' :: later := by
      rw [List.dropWhile_append_of_pos all, List.dropWhile_cons_of_neg (by simp [open'])]
    simp [closedRun, taken, dropped, some, short]

theorem startsEntity_of_reference {reference : Text} (known : EntityReference reference)
    (later : Text) : startsEntity (reference ++ later) = true := by
  cases known with
  | @hexadecimal sign digits known all some limit =>
      have closed : closedRun Text.isHexDigit 6 (digits ++ ';' :: later) = true :=
        (closedRun_iff (by decide)).mpr ⟨digits, later, rfl, all, some, limit⟩
      have marked : Option.some sign = Option.some 'x' ∨ Option.some sign = Option.some 'X' := by
        simpa using known
      simp only [List.cons_append, List.append_assoc, List.nil_append]
      rwa [startsEntity_cons, if_pos rfl, List.head?_cons, if_pos marked, List.tail_cons]
  | @decimal digits all some limit =>
      have closed : closedRun Char.isDigit 7 (digits ++ ';' :: later) = true :=
        (closedRun_iff (by decide)).mpr ⟨digits, later, rfl, all, some, limit⟩
      obtain ⟨first, others, rfl⟩ := List.exists_cons_of_length_pos some
      -- A digit is no mark of a hexadecimal code.
      have unmarked : ¬ (Option.some first = Option.some 'x' ∨
          Option.some first = Option.some 'X') := by
        have digit := all first List.mem_cons_self
        rintro (same | same) <;> rw [Option.some.inj same] at digit <;> revert digit <;> decide
      simp only [List.cons_append, List.append_assoc, List.nil_append] at closed ⊢
      rwa [startsEntity_cons, if_pos rfl, List.head?_cons, if_neg unmarked]
  | @named first others letter all limit =>
      have alphanumeric : first.isAlphanum = true := by simp [Char.isAlphanum, letter]
      have closed : closedRun Char.isAlphanum 32 (first :: others ++ ';' :: later) = true :=
        (closedRun_iff (by decide)).mpr ⟨first :: others, later, rfl,
          List.forall_mem_cons.mpr ⟨alphanumeric, all⟩, Nat.le_add_left .., limit⟩
      have notNumeric : first ≠ '#' := by
        rintro rfl
        revert letter
        decide
      simp only [List.cons_append, List.append_assoc, List.nil_append] at closed ⊢
      rw [startsEntity_cons, if_neg notNumeric, letter, Bool.true_and, closed]

theorem EntityReference.closed {reference : Text} (known : EntityReference reference) :
    ∃ body, reference = body ++ [';'] ∧ ∀ ch ∈ body, ch = '#' ∨ ch.isAlphanum = true := by
  cases known with
  | @hexadecimal sign digits known all some limit =>
      have letter : sign.isAlphanum = true := by
        rcases known with rfl | rfl <;> decide
      refine ⟨'#' :: sign :: digits, rfl, List.forall_mem_cons.mpr ⟨Or.inl rfl, ?_⟩⟩
      exact List.forall_mem_cons.mpr ⟨Or.inr letter,
        fun ch inside => Or.inr (isAlphanum_of_isHexDigit ch (all ch inside))⟩
  | @decimal digits all some limit =>
      exact ⟨'#' :: digits, rfl, List.forall_mem_cons.mpr ⟨Or.inl rfl,
        fun ch inside => Or.inr (ReferenceRun.digit.alphanumeric ch (all ch inside))⟩⟩
  | @named first others letter all limit =>
      exact ⟨first :: others, rfl, List.forall_mem_cons.mpr
        ⟨Or.inr (by simp [Char.isAlphanum, letter]), fun ch inside => Or.inr (all ch inside)⟩⟩

theorem startsEntity_iff (rest : Text) : startsEntity rest = true ↔ BeginsReference rest := by
  constructor
  · intro starts
    cases rest with
    | nil => cases starts
    | cons c rest =>
        rw [startsEntity_cons] at starts
        by_cases numeric : c = '#'
        · subst numeric
          rw [if_pos rfl] at starts
          by_cases marked : rest.head? = some 'x' ∨ rest.head? = some 'X'
          · rw [if_pos marked, closedRun_iff (by decide)] at starts
            obtain ⟨digits, later, split, all, some, limit⟩ := starts
            cases rest with
            | nil => simp at marked
            | cons sign rest =>
                rw [List.tail_cons] at split
                refine ⟨'#' :: sign :: (digits ++ [';']), later, by simp [split],
                  .hexadecimal (by simpa using marked) all some limit⟩
          · rw [if_neg marked, closedRun_iff (by decide)] at starts
            obtain ⟨digits, later, rfl, all, some, limit⟩ := starts
            exact ⟨'#' :: (digits ++ [';']), later, by simp, .decimal all some limit⟩
        · rw [if_neg numeric, Bool.and_eq_true, closedRun_iff (by decide)] at starts
          obtain ⟨letter, run, later, split, all, some, limit⟩ := starts
          obtain ⟨first, others, rfl⟩ := List.exists_cons_of_length_pos some
          obtain ⟨rfl, rfl⟩ := List.cons.inj split
          exact ⟨c :: (others ++ [';']), later, by simp,
            .named letter (List.forall_mem_cons.mp all).2 limit⟩
  · rintro ⟨reference, later, rfl, known⟩
    exact startsEntity_of_reference known later

end References

end MarkdownHighlight.Markup
