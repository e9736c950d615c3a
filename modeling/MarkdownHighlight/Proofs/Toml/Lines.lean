import Mathlib.Algebra.Group.Nat.Defs
import MarkdownHighlight.Proofs.Text.Decimal
import MarkdownHighlight.Proofs.Text.Reader
import MarkdownHighlight.Toml.Document

/-!
The plainest lines of a TOML document: a comment, a blank line, and a bare key with a
whole number or a truth value. Each is read to its end and no further, and a number is
taken for no date, no float and no number of another base.
-/

namespace MarkdownHighlight.Toml

open Reader
open Text (numberOf)

section Numbers

variable {w rest : Text}

theorem ne_of_isDigit {ch other : Char} (digit : ch.isDigit = true)
    (foreign : other.isDigit = false) : ch ≠ other := by
  rintro rfl
  rw [digit] at foreign
  cases foreign

theorem exists_digits_left {u v : Text} (all : ∀ ch ∈ w, ch.isDigit = true)
    (same : w ++ '\n' :: rest = v ++ u) (digits : ∀ ch ∈ v, ch.isDigit = true) :
    ∃ ch later, u = ch :: later ∧ ∀ other, other.isDigit = false ∧ other ≠ '\n' → ch ≠ other := by
  rcases List.append_eq_append_iff.mp same with ⟨x, longer, tail⟩ | ⟨x, shorter, tail⟩
  · cases x with
    | nil => exact ⟨'\n', rest, tail.symm, fun _ foreign => foreign.2.symm⟩
    | cons ch x =>
        obtain ⟨rfl, _⟩ := List.cons.inj tail
        have strange := digits '\n' (by simp [longer])
        exact absurd strange (by decide)
  · cases x with
    | nil => exact ⟨'\n', rest, tail, fun _ foreign => foreign.2.symm⟩
    | cons ch x =>
        have digit := all ch (by simp [shorter])
        exact ⟨ch, _, tail, fun _ foreign => ne_of_isDigit digit foreign.1⟩

theorem numberIn_eq_some {count low high value : Nat} {t u : Text}
    (read : numberIn count low high t = some (value, u)) :
    ∃ v, t = v ++ u ∧ ∀ ch ∈ v, ch.isDigit = true := by
  rw [numberIn, bind_apply, Option.bind_eq_some_iff] at read
  obtain ⟨⟨v, u'⟩, taken, bounded⟩ := read
  rw [exactly] at taken
  split at taken
  · rename_i digits
    obtain ⟨rfl, rfl⟩ := Prod.mk.inj (Option.some.inj taken)
    split at bounded
    · obtain ⟨_, rfl⟩ := Prod.mk.inj (Option.some.inj bounded)
      exact ⟨_, (List.take_append_drop count t).symm, List.all_eq_true.mp digits.2⟩
    · cases bounded
  · cases taken

/-- No sign stands behind the digits of a number, so it begins no date and no time. -/
theorem numberIn_char_eq_none {α : Type} (all : ∀ ch ∈ w, ch.isDigit = true) (count low high : Nat)
    {sign : Char} (other : sign.isDigit = false ∧ sign ≠ '\n') (next : Nat → Reader α) :
    (numberIn count low high >>= fun value => char sign >>= fun _ => next value)
      (w ++ '\n' :: rest) = none := by
  rw [bind_apply, Option.bind_eq_none_iff]
  rintro ⟨value, u⟩ read
  obtain ⟨v, same, digits⟩ := numberIn_eq_some read
  obtain ⟨ch, later, rfl, apart⟩ := exists_digits_left all same digits
  simp [apart sign other]

theorem moment_number (all : ∀ ch ∈ w, ch.isDigit = true) : moment (w ++ '\n' :: rest) = none := by
  have dated : date (w ++ '\n' :: rest) = none := numberIn_char_eq_none all 4 0 9999 (by decide) _
  have timed : time (w ++ '\n' :: rest) = none := numberIn_char_eq_none all 2 0 23 (by decide) _
  rw [moment, orElse_apply, bind_apply, dated, timed]
  rfl

theorem rounds_groupedDigit (all : ∀ ch ∈ w, ch.isDigit = true) :
    Rounds (groupedDigit Char.isDigit) (w ++ '\n' :: rest) w ('\n' :: rest) := by
  induction w with
  | nil => exact .stop (by simp [groupedDigit])
  | cons ch w ih =>
      obtain ⟨digit, others⟩ := List.forall_mem_cons.mp all
      exact .step (u := w ++ '\n' :: rest) (by simp [groupedDigit, digit]) (by simp) (ih others)

theorem wholeDigits_toDigits (n : Nat) :
    wholeDigits (Nat.toDigits 10 n ++ '\n' :: rest) = some (Nat.toDigits 10 n, '\n' :: rest) := by
  have all : ∀ ch ∈ Nat.toDigits 10 n, ch.isDigit = true := fun _ => Text.isDigit_of_mem_toDigits
  rcases Nat.eq_zero_or_pos n with rfl | some
  · rfl
  · have zero := Text.head?_toDigits some
    obtain ⟨ch, later, digits⟩ :=
      List.exists_cons_of_ne_nil (Nat.toDigits_ne_nil (n := n) (b := 10))
    rw [digits] at all zero ⊢
    obtain ⟨digit, others⟩ := List.forall_mem_cons.mp all
    have other : ch ≠ '0' := by simpa using zero
    simp [wholeDigits, digit, other, (rounds_groupedDigit others).many]

theorem exists_cons_toDigits (n : Nat) :
    ∃ ch later, Nat.toDigits 10 n = ch :: later ∧ ∀ other, other.isDigit = false → ch ≠ other := by
  obtain ⟨ch, later, digits⟩ := List.exists_cons_of_ne_nil (Nat.toDigits_ne_nil (n := n) (b := 10))
  have digit : ch.isDigit = true := Text.isDigit_of_mem_toDigits (by rw [digits]; exact .head _)
  exact ⟨ch, later, digits, fun _ => ne_of_isDigit digit⟩

theorem literal_number (first : Char) (other : first.isDigit = false) (word : Text) (n : Nat)
    (t : Text) : literal (first :: word) (Nat.toDigits 10 n ++ t) = none := by
  obtain ⟨ch, later, digits, apart⟩ := exists_cons_toDigits n
  rw [digits]
  refine literal_of_not_prefix fun begins => ?_
  rw [List.cons_append, List.cons_prefix_cons] at begins
  exact apart first other begins.1.symm

theorem char_number (sign : Char) (other : sign.isDigit = false) (n : Nat) (t : Text) :
    char sign (Nat.toDigits 10 n ++ t) = none := by
  obtain ⟨ch, later, digits, apart⟩ := exists_cons_toDigits n
  simp [digits, apart sign other]

theorem sign_number (n : Nat) (t : Text) :
    sign (Nat.toDigits 10 n ++ t) = some (false, Nat.toDigits 10 n ++ t) := by
  simp [sign, char_number '-' (by decide), char_number '+' (by decide)]

theorem string_number (n : Nat) (t : Text) : string (Nat.toDigits 10 n ++ t) = none := by
  have double : Char.isDigit '"' = false := by decide
  have single : Char.isDigit '\'' = false := by decide
  simp [string, multiLineBasicString, multiLineLiteralString, multiLine, basicString,
    literalString, literal_number, char_number, double, single]

theorem float_number (n : Nat) : float (Nat.toDigits 10 n ++ '\n' :: rest) = none := by
  have infinite := literal_number 'i' (by decide) ['n', 'f'] n ('\n' :: rest)
  have strange := literal_number 'n' (by decide) ['a', 'n'] n ('\n' :: rest)
  simp [float, decimalFloat, specialFloat, sign_number, wholeDigits_toDigits, exponent, infinite,
    strange]

theorem basedInteger_number (mark : Char) (other : mark.isDigit = false ∧ mark ≠ '\n')
    (base : Nat) (test : Char → Bool) (n : Nat) :
    basedInteger mark base test (Nat.toDigits 10 n ++ '\n' :: rest) = none := by
  have apart : ¬ ['0', mark] <+: Nat.toDigits 10 n ++ '\n' :: rest := by
    rintro ⟨t, same⟩
    obtain ⟨ch, later, begins, apart⟩ := exists_digits_left (v := ['0'])
      (fun _ => Text.isDigit_of_mem_toDigits) same.symm (by decide)
    exact apart mark other (List.cons.inj begins).1.symm
  simp [basedInteger, literal_of_not_prefix apart]

theorem bounded_natCast {n : Nat} (fits : n < 2 ^ 63) (t : Text) :
    bounded n t = some ((n : Int), t) := by
  have held : fitsInt64 n = true := by
    have large : Int.pow 2 63 = 2 ^ 63 := by decide
    rw [fitsInt64, Bool.and_eq_true, decide_eq_true_eq, decide_eq_true_eq, large]
    omega
  rw [bounded, if_pos held]
  rfl

theorem decimalInteger_of_unsigned {digits t u : Text} (unsigned : sign t = some (false, t))
    (whole : wholeDigits t = some (digits, u)) :
    decimalInteger t = bounded (numberOf 10 digits : Nat) u := by
  rw [decimalInteger, bind_apply, unsigned, Option.bind_some, bind_apply, whole,
    Option.bind_some, if_neg Bool.false_ne_true]

theorem decimalInteger_number {n : Nat} (fits : n < 2 ^ 63) :
    decimalInteger (Nat.toDigits 10 n ++ '\n' :: rest) = some ((n : Int), '\n' :: rest) := by
  rw [decimalInteger_of_unsigned (sign_number n _) (wholeDigits_toDigits n),
    Text.numberOf_toDigits, bounded_natCast fits]

theorem scalar_number {n : Nat} (fits : n < 2 ^ 63) :
    scalar (Nat.toDigits 10 n ++ '\n' :: rest) = some (.integer n, '\n' :: rest) := by
  have momentary : moment (Nat.toDigits 10 n ++ '\n' :: rest) = none :=
    moment_number fun _ => Text.isDigit_of_mem_toDigits
  simp only [scalar, integer, orElse_apply, map_apply, bind_apply, string_number, momentary,
    float_number, basedInteger_number 'x' (by decide), basedInteger_number 'o' (by decide),
    basedInteger_number 'b' (by decide), decimalInteger_number fits]
  rfl

end Numbers

section Lines

variable (rest : Text)

theorem scalar_boolean (b : Bool) :
    scalar ((if b then "true" else "false").toList ++ '\n' :: rest)
      = some (.boolean b, '\n' :: rest) := by
  cases b <;> rfl

theorem value_of_scalar {t : Text} (plain : ∀ ch, t.head? = some ch → ch ≠ '[' ∧ ch ≠ '{')
    (depth : Nat) : value depth t = scalar t := by
  cases depth with
  | zero => rfl
  | succ depth =>
      have neither : array (value depth) t = none ∧ inlineTable (value depth) t = none := by
        cases t with
        | nil => exact ⟨rfl, rfl⟩
        | cons ch later =>
            obtain ⟨square, brace⟩ := plain ch rfl
            simp [array, inlineTable, square, brace]
      rw [value, orElse_apply, orElse_apply, neither.1, neither.2]
      rfl

theorem blanks_of_not_blank {t : Text} (ended : ∀ ch, t.head? = some ch → isBlankChar ch = false) :
    blanks t = some ((), t) := by
  have none : run isBlankChar ([] ++ t) = some ([], t) := run_append (by simp) ended
  rw [List.nil_append] at none
  simp [blanks, none]

theorem restOfLine_newline : restOfLine ('\n' :: rest) = some ((), rest) := rfl

section Key

variable {key : Text} (bare : ∀ ch ∈ key, isBareKeyChar ch = true) (named : key ≠ [])

include bare named

theorem exists_cons_bare : ∃ first later, key = first :: later ∧
    ∀ other, isBareKeyChar other = false → first ≠ other := by
  obtain ⟨first, later, rfl⟩ := List.exists_cons_of_ne_nil named
  refine ⟨first, later, rfl, ?_⟩
  rintro other foreign rfl
  rw [bare first (.head _)] at foreign
  cases foreign

theorem simpleKey_bare {t : Text} (ended : ∀ ch, t.head? = some ch → isBareKeyChar ch = false) :
    simpleKey (key ++ t) = some (key, t) := by
  have whole := run1_append named bare ended
  obtain ⟨first, later, rfl, apart⟩ := exists_cons_bare bare named
  have double := apart '"' (by decide)
  have single := apart '\'' (by decide)
  rw [List.cons_append] at whole ⊢
  simp [simpleKey, basicString, literalString, double, single, whole]

theorem blanks_bare (t : Text) : blanks (key ++ t) = some ((), key ++ t) := by
  obtain ⟨first, later, rfl, apart⟩ := exists_cons_bare bare named
  have space := apart ' ' (by decide)
  have tab := apart '\t' (by decide)
  refine blanks_of_not_blank ?_
  rintro _ ⟨⟩
  simp [isBlankChar, space, tab]

theorem dottedKey_bare (t : Text) :
    dottedKey (key ++ ' ' :: '=' :: t) = some (([], key), '=' :: t) := by
  have first := simpleKey_bare bare named (t := ' ' :: '=' :: t) (by rintro _ ⟨⟩; decide)
  have behind : blanks (' ' :: '=' :: t) = some ((), '=' :: t) := rfl
  have only : many (do
      let _ ← char '.'
      blanks
      let key ← simpleKey
      blanks
      return key) ('=' :: t) = some ([], '=' :: t) := (Rounds.stop rfl).many
  simp only [dottedKey, separated, bind_apply, blanks_bare bare named, first, behind,
    Option.bind_some, pure_apply, only]
  rfl

theorem line_entry {w : Text} {item : Item} (rest : Text)
    (visible : ∀ ch, (w ++ '\n' :: rest).head? = some ch → isBlankChar ch = false)
    (read : value (depthLimit - 1) (w ++ '\n' :: rest) = some (item, '\n' :: rest)) :
    line (key ++ ' ' :: '=' :: ' ' :: (w ++ '\n' :: rest)) = some (.entry [] key item, rest) := by
  have keyed := dottedKey_bare bare named (' ' :: (w ++ '\n' :: rest))
  have start := blanks_bare bare named (' ' :: '=' :: ' ' :: (w ++ '\n' :: rest))
  have gap : blanks (' ' :: (w ++ '\n' :: rest)) = some ((), w ++ '\n' :: rest) := by
    have one : run isBlankChar ([' '] ++ (w ++ '\n' :: rest)) = some ([' '], w ++ '\n' :: rest) :=
      run_append (by decide) visible
    rw [List.singleton_append] at one
    simp [blanks, one]
  obtain ⟨first, later, rfl, apart⟩ := exists_cons_bare bare named
  rw [List.cons_append] at keyed start ⊢
  simp [line, start, apart '#' (by decide), apart '[' (by decide), apart '\n' (by decide),
    apart '\r' (by decide), keyed, gap, read, restOfLine_newline]

theorem line_number {n : Nat} (fits : n < 2 ^ 63) (rest : Text) :
    line (key ++ ' ' :: '=' :: ' ' :: (Nat.toDigits 10 n ++ '\n' :: rest))
      = some (.entry [] key (.integer n), rest) := by
  have apart : ∀ other : Char, other.isDigit = false →
      ∀ ch, (Nat.toDigits 10 n ++ '\n' :: rest).head? = some ch → ch ≠ other := by
    obtain ⟨first, later, digits, apart⟩ := exists_cons_toDigits n
    rw [digits]
    rintro other foreign _ ⟨⟩
    exact apart other foreign
  refine line_entry bare named rest (fun ch head => ?_) ?_
  · have space := apart ' ' (by decide) ch head
    have tab := apart '\t' (by decide) ch head
    simp [isBlankChar, space, tab]
  · have square := apart '[' (by decide)
    have brace := apart '{' (by decide)
    rw [value_of_scalar fun ch head => ⟨square ch head, brace ch head⟩]
    exact scalar_number fits

theorem line_boolean (b : Bool) (rest : Text) :
    line (key ++ ' ' :: '=' :: ' ' :: ((if b then "true" else "false").toList ++ '\n' :: rest))
      = some (.entry [] key (.boolean b), rest) := by
  refine line_entry bare named rest ?_ ?_
  · cases b <;> rintro _ ⟨⟩ <;> decide
  · rw [value_of_scalar (by cases b <;> rintro _ ⟨⟩ <;> decide)]
    exact scalar_boolean rest b

end Key

theorem line_comment {w : Text} (printable : ∀ ch ∈ w, isPrintable ch = true) (rest : Text) :
    line ('#' :: (w ++ '\n' :: rest)) = some (.blank, rest) := by
  have start : blanks ('#' :: (w ++ '\n' :: rest)) = some ((), '#' :: (w ++ '\n' :: rest)) :=
    blanks_of_not_blank (by rintro _ ⟨⟩; decide)
  have text : run isPrintable (w ++ '\n' :: rest) = some (w, '\n' :: rest) :=
    run_append printable (by rintro _ ⟨⟩; decide)
  have ended : lineEnd ('\n' :: rest) = some ((), rest) := rfl
  simp [line, start, comment, text, ended]

theorem line_newline (rest : Text) : line ('\n' :: rest) = some (.blank, rest) := rfl

theorem document_of_rounds {t : Text} {lines : List Line} (rounds : Rounds line t lines []) :
    document t = some (lines, []) := by
  have behind : blanks [] = some ((), []) := rfl
  simp [document, rounds.many, behind, finish]

end Lines

end MarkdownHighlight.Toml
