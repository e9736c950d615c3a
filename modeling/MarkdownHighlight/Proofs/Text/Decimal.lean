import MarkdownHighlight.Text.Digits

/-!
Whole numbers in decimal. What is printed of a number are digits, the first of them a
zero only for zero itself, and they are read as that number again.
-/

namespace MarkdownHighlight.Text

theorem isDigit_of_mem_toDigits {n : Nat} {ch : Char} (inside : ch ∈ Nat.toDigits 10 n) :
    ch.isDigit = true :=
  Nat.isDigit_of_mem_toDigits (by decide) (by decide) inside

theorem numberOf_eq_ofDigitChars {w : Text} (all : ∀ ch ∈ w, ch.isDigit = true) :
    numberOf 10 w = Nat.ofDigitChars 10 w 0 := by
  rw [numberOf, Nat.ofDigitChars]
  generalize 0 = value
  induction w generalizing value with
  | nil => rfl
  | cons ch later ih =>
      obtain ⟨first, others⟩ := List.forall_mem_cons.mp all
      rw [List.foldl_cons, List.foldl_cons, ih others, digitValue, if_pos first, Nat.mul_comm]

theorem numberOf_toDigits (n : Nat) : numberOf 10 (Nat.toDigits 10 n) = n := by
  rw [numberOf_eq_ofDigitChars fun _ => isDigit_of_mem_toDigits,
    Nat.ofDigitChars_toDigits (by decide) (by decide)]

theorem head?_toDigits {n : Nat} (some : 0 < n) : (Nat.toDigits 10 n).head? ≠ .some '0' := by
  induction n using Nat.strongRecOn with
  | ind n ih =>
      rcases Nat.lt_or_ge n 10 with small | large
      · have each : ∀ m < 10, 0 < m → Nat.digitChar m ≠ '0' := by decide
        rw [Nat.toDigits_of_lt_base small, List.head?_cons, ne_eq, Option.some.injEq]
        exact each n small some
      · have shorter := ih (n / 10) (by omega) (by omega)
        obtain ⟨ch, later, digits⟩ :=
          List.exists_cons_of_ne_nil (Nat.toDigits_ne_nil (n := n / 10) (b := 10))
        rw [digits] at shorter
        rwa [Nat.toDigits_of_base_le (by decide) large, digits]

end MarkdownHighlight.Text
