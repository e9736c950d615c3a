import Mathlib.Algebra.Group.Nat.Defs
import MarkdownHighlight.CommandLine.Arguments
import MarkdownHighlight.Proofs.Text.Decimal

/-!
The range of lines that is given for a viewport: two numbers with a colon between them. A
number has digits, as many zeros in front as one likes, perhaps a plus sign, and white space
around it. Nothing else is a range, and neither is a number of more than 64 bits; the printed
form of a viewport is read as that viewport.
-/

namespace MarkdownHighlight

theorem Text.withinRanges_iff {table : List (Nat × Nat)}
    (ascending : table.Pairwise fun a b => a.1 ≤ b.1) (code : Nat) :
    withinRanges table code = true ↔ ∃ r ∈ table, r.1 ≤ code ∧ code ≤ r.2 := by
  induction table with
  | nil => simp [withinRanges]
  | cons range later ih =>
      obtain ⟨first, last⟩ := range
      obtain ⟨ahead, ascending⟩ := List.pairwise_cons.mp ascending
      rw [withinRanges]
      split
      · rename_i early
        refine iff_of_false Bool.false_ne_true ?_
        rintro ⟨r, member, reached, _⟩
        rcases List.mem_cons.mp member with rfl | other
        · exact absurd reached (Nat.not_le.mpr early)
        · exact absurd (Nat.le_trans (ahead r other) reached) (Nat.not_le.mpr early)
      · split
        · rename_i reached within
          exact iff_of_true rfl ⟨_, List.mem_cons_self, Nat.le_of_not_lt reached, within⟩
        · rename_i beyond
          simp [ih ascending, beyond]

namespace CommandLine

def whiteSpaceCodes : List Nat :=
  [0x09, 0x0a, 0x0b, 0x0c, 0x0d, 0x20, 0x85, 0xa0, 0x1680, 0x2000, 0x2001, 0x2002, 0x2003, 0x2004,
   0x2005, 0x2006, 0x2007, 0x2008, 0x2009, 0x200a, 0x2028, 0x2029, 0x202f, 0x205f, 0x3000]

def WhiteSpace (w : Text) : Prop := ∀ ch ∈ w, ch.toNat ∈ whiteSpaceCodes

def Numeral (w : Text) (n : Nat) : Prop :=
  ∃ sign digits, w = sign ++ digits ∧ (sign = [] ∨ sign = ['+']) ∧ digits ≠ [] ∧
    (∀ ch ∈ digits, ch.isDigit = true) ∧ Text.numberOf 10 digits = n

def Spaced (w : Text) (n : Nat) : Prop :=
  ∃ before inner after, w = before ++ inner ++ after ∧ WhiteSpace before ∧ WhiteSpace after ∧
    Numeral inner n

theorem isBlank_iff (ch : Char) : Text.isBlank ch = true ↔ ch.toNat ∈ whiteSpaceCodes := by
  have space : ch = ' ' ↔ ch.toNat = 0x20 := by
    rw [← Char.toNat_inj]
    rfl
  have listed : ch.toNat ∈ whiteSpaceCodes ↔ (ch.toNat = 0x20 ∨ 0x09 ≤ ch.toNat ∧ ch.toNat ≤ 0x0d) ∨
      ∃ r ∈ Text.blankRanges, r.1 ≤ ch.toNat ∧ ch.toNat ≤ r.2 := by
    simp only [whiteSpaceCodes, Text.blankRanges, List.mem_cons, List.not_mem_nil, or_false,
      exists_eq_or_imp, exists_eq_left]
    omega
  have ascii : (∃ r ∈ Text.blankRanges, r.1 ≤ ch.toNat ∧ ch.toNat ≤ r.2) → 0x80 ≤ ch.toNat := by
    have high : ∀ r ∈ Text.blankRanges, 0x80 ≤ r.1 := by decide
    rintro ⟨r, member, reached, _⟩
    exact Nat.le_trans (high r member) reached
  rw [listed, Text.isBlank]
  split
  · rename_i low
    simp only [Bool.or_eq_true, beq_iff_eq, Bool.and_eq_true, decide_eq_true_eq, space]
    exact (or_iff_left fun there => absurd (ascii there) (Nat.not_le.mpr low)).symm
  · rename_i high
    rw [Text.withinRanges_iff (by decide)]
    refine (or_iff_right ?_).symm
    omega

theorem whiteSpace_iff (w : Text) : WhiteSpace w ↔ ∀ ch ∈ w, Text.isBlank ch = true := by
  simp only [WhiteSpace, isBlank_iff]

section Trimming

theorem exists_trim (t : Text) :
    ∃ before after, t = before ++ trim t ++ after ∧ WhiteSpace before ∧ WhiteSpace after := by
  have blanks : ∀ w : Text, WhiteSpace (w.takeWhile Text.isBlank) := by
    intro w
    rw [whiteSpace_iff]
    exact List.all_eq_true.mp List.all_takeWhile
  let front := t.dropWhile Text.isBlank
  refine ⟨t.takeWhile Text.isBlank, (front.reverse.takeWhile Text.isBlank).reverse, ?_, blanks t,
    fun ch inside => blanks _ ch (List.mem_reverse.mp inside)⟩
  have behind : trim t ++ (front.reverse.takeWhile Text.isBlank).reverse = front := by
    rw [trim, ← List.reverse_append, List.takeWhile_append_dropWhile, List.reverse_reverse]
  rw [List.append_assoc, behind, List.takeWhile_append_dropWhile]

theorem dropWhile_leading {leading rest : Text} {ch : Char}
    (blank : ∀ ch ∈ leading, Text.isBlank ch = true) (visible : Text.isBlank ch = false) :
    (leading ++ ch :: rest).dropWhile Text.isBlank = ch :: rest := by
  rw [List.dropWhile_append_of_pos blank, List.dropWhile_cons_of_neg (by simp [visible])]

theorem trim_of_spaced {before inner after : Text} (leading : WhiteSpace before)
    (trailing : WhiteSpace after) (some : inner ≠ [])
    (visible : ∀ ch ∈ inner, Text.isBlank ch = false) :
    trim (before ++ inner ++ after) = inner := by
  rw [whiteSpace_iff] at leading trailing
  obtain ⟨first, later, begins⟩ := List.exists_cons_of_ne_nil some
  obtain ⟨last, earlier, ends⟩ :=
    List.exists_cons_of_ne_nil (List.reverse_ne_nil_iff.mpr some)
  have atFirst := visible first (begins ▸ List.mem_cons_self)
  have atLast := visible last (List.mem_reverse.mp (ends ▸ List.mem_cons_self))
  have front : (before ++ inner ++ after).dropWhile Text.isBlank = inner ++ after := by
    rw [List.append_assoc, begins, List.cons_append, dropWhile_leading leading atFirst]
  have back : (inner ++ after).reverse.dropWhile Text.isBlank = inner.reverse := by
    rw [List.reverse_append, ends,
      dropWhile_leading (fun ch inside => trailing ch (List.mem_reverse.mp inside)) atLast]
  rw [trim, front, back, List.reverse_reverse]

end Trimming

section Numbers

variable {w digits : Text} {n : Nat}

theorem exists_sign (w : Text) :
    ∃ sign, w = sign ++ withoutPlus w ∧ (sign = [] ∨ sign = ['+']) := by
  rw [withoutPlus.eq_def]
  split
  · exact ⟨['+'], rfl, Or.inr rfl⟩
  · exact ⟨[], rfl, Or.inl rfl⟩

theorem withoutPlus_of_digits (all : ∀ ch ∈ digits, ch.isDigit = true) :
    withoutPlus digits = digits := by
  rw [withoutPlus.eq_def]
  split
  · exact absurd (all '+' List.mem_cons_self) (by decide)
  · rfl

theorem Numeral.visible (numeral : Numeral w n) :
    w ≠ [] ∧ ∀ ch ∈ w, Text.isBlank ch = false ∧ ch ≠ ':' := by
  obtain ⟨sign, digits, rfl, signed, some, all, _⟩ := numeral
  refine ⟨List.append_ne_nil_of_right_ne_nil sign some, fun ch inside => ?_⟩
  rcases List.mem_append.mp inside with front | digit
  · rcases signed with rfl | rfl
    · cases front
    · rw [List.mem_singleton.mp front]
      decide
  · have range : 0x30 ≤ ch.toNat ∧ ch.toNat ≤ 0x39 := Char.isDigit_iff_toNat.mp (all ch digit)
    constructor
    · rw [Bool.eq_false_iff, ne_eq, isBlank_iff]
      simp only [whiteSpaceCodes, List.mem_cons, List.not_mem_nil, or_false]
      omega
    · rintro rfl
      exact absurd range (by decide)

theorem parseWord?_eq_some_iff (w : Text) (word : UInt64) :
    parseWord? w = some word ↔ Numeral w word.toNat := by
  rw [parseWord?]
  constructor
  · intro read
    obtain ⟨sign, split, signed⟩ := exists_sign w
    dsimp only at read
    split at read
    · cases read
    · rename_i digits
      simp only [Bool.or_eq_true, not_or, Bool.not_eq_true', Bool.not_eq_false,
        List.isEmpty_iff, List.all_eq_true] at digits
      split at read
      · rename_i small
        cases read
        refine ⟨sign, withoutPlus w, split, signed, digits.1, digits.2, ?_⟩
        rw [Text.numberOf_eq_ofDigitChars digits.2]
        exact (UInt64.toNat_ofNat_of_lt' small).symm
      · cases read
  · rintro ⟨sign, digits, rfl, signed, some, all, value⟩
    have bare : withoutPlus (sign ++ digits) = digits := by
      rcases signed with rfl | rfl
      · exact withoutPlus_of_digits all
      · rfl
    rw [Text.numberOf_eq_ofDigitChars all] at value
    simpa [bare, some, value, word.toNat_lt] using all

end Numbers

theorem parseWord?_trim_eq_some_iff (t : Text) (word : UInt64) :
    parseWord? (trim t) = some word ↔ Spaced t word.toNat := by
  rw [parseWord?_eq_some_iff]
  constructor
  · intro numeral
    obtain ⟨before, after, split, leading, trailing⟩ := exists_trim t
    exact ⟨before, trim t, after, split, leading, trailing, numeral⟩
  · rintro ⟨before, inner, after, rfl, leading, trailing, numeral⟩
    obtain ⟨some, visible⟩ := numeral.visible
    rwa [trim_of_spaced leading trailing some fun ch inside => (visible ch inside).1]

theorem Spaced.no_colon {t : Text} {n : Nat} (spaced : Spaced t n) : ':' ∉ t := by
  obtain ⟨before, inner, after, rfl, leading, trailing, numeral⟩ := spaced
  have colon : ':'.toNat ∉ whiteSpaceCodes := by decide
  simp only [List.mem_append, not_or]
  exact ⟨⟨fun front => colon (leading _ front), fun inside => (numeral.visible.2 _ inside).2 rfl⟩,
    fun behind => colon (trailing _ behind)⟩

theorem splitAtColon?_eq_some_iff (t first last : Text) :
    splitAtColon? t = some (first, last) ↔ t = first ++ ':' :: last ∧ ':' ∉ first := by
  rw [splitAtColon?]
  constructor
  · intro found
    have whole : t.takeWhile (· != ':') ++ t.dropWhile (· != ':') = t :=
      List.takeWhile_append_dropWhile
    have head := List.head?_dropWhile_not (· != ':') t
    split at found
    · cases found
    · rename_i ch rest behind
      cases found
      obtain rfl : ch = ':' := by simpa [behind] using head
      refine ⟨by rw [← behind, whole], fun inside => ?_⟩
      have passed := List.all_eq_true.mp (List.all_takeWhile (p := (· != ':'))) _ inside
      simp at passed
  · rintro ⟨rfl, clean⟩
    have passed : ∀ ch ∈ first, (ch != ':') = true := by
      intro ch inside
      rw [bne_iff_ne]
      rintro rfl
      exact clean inside
    rw [List.dropWhile_append_of_pos passed, List.takeWhile_append_of_pos passed]
    simp

theorem parseViewport?_eq_some_iff (range : Text) (v : Viewport) :
    parseViewport? range = some v ↔
      ∃ first last, range = first ++ ':' :: last ∧ Spaced first v.first.toNat ∧
        Spaced last v.last.toNat := by
  constructor
  · intro read
    obtain ⟨⟨first, last⟩, split, read⟩ := Option.bind_eq_some_iff.mp read
    obtain ⟨m, low, read⟩ := Option.bind_eq_some_iff.mp read
    obtain ⟨n, high, read⟩ := Option.bind_eq_some_iff.mp read
    cases read
    exact ⟨first, last, ((splitAtColon?_eq_some_iff ..).mp split).1,
      (parseWord?_trim_eq_some_iff first m).mp low, (parseWord?_trim_eq_some_iff last n).mp high⟩
  · rintro ⟨first, last, apart, low, high⟩
    have split := (splitAtColon?_eq_some_iff range first last).mpr ⟨apart, low.no_colon⟩
    have low := (parseWord?_trim_eq_some_iff first v.first).mpr low
    have high := (parseWord?_trim_eq_some_iff last v.last).mpr high
    simp [parseViewport?, split, low, high]

theorem spaced_toDigits (n : Nat) : Spaced (Nat.toDigits 10 n) n :=
  ⟨[], Nat.toDigits 10 n, [], by simp, nofun, nofun, [], Nat.toDigits 10 n, rfl, Or.inl rfl,
    Nat.toDigits_ne_nil, fun _ => Text.isDigit_of_mem_toDigits, Text.numberOf_toDigits n⟩

/-- A range of lines is two numbers with a colon between them, each with white space around it
or none and of 64 bits at most; the printed form of a viewport is the viewport. -/
theorem viewport_range_exact :
    (∀ range v, parseViewport? range = some v ↔
      ∃ first last m n, range = first ++ ':' :: last ∧ Spaced first m ∧ Spaced last n ∧
        m < 2 ^ 64 ∧ n < 2 ^ 64 ∧ v = ⟨.ofNat m, .ofNat n⟩) ∧
      ∀ v : Viewport, parseViewport? v.fingerprint = some v := by
  refine ⟨fun range v => (parseViewport?_eq_some_iff range v).trans ⟨?_, ?_⟩, fun v => ?_⟩
  · rintro ⟨first, last, apart, low, high⟩
    exact ⟨first, last, _, _, apart, low, high, v.first.toNat_lt, v.last.toNat_lt,
      by rw [UInt64.ofNat_toNat, UInt64.ofNat_toNat]⟩
  · rintro ⟨first, last, m, n, apart, low, high, small, small', rfl⟩
    have same : (UInt64.ofNat m).toNat = m := UInt64.toNat_ofNat_of_lt' small
    have same' : (UInt64.ofNat n).toNat = n := UInt64.toNat_ofNat_of_lt' small'
    exact ⟨first, last, apart, same.symm ▸ low, same'.symm ▸ high⟩
  · exact (parseViewport?_eq_some_iff ..).mpr
      ⟨_, _, rfl, spaced_toDigits v.first.toNat, spaced_toDigits v.last.toNat⟩

example : parseViewport? " +007 :18446744073709551615".toList = some ⟨7, .ofNat (2 ^ 64 - 1)⟩ ∧
    parseViewport? "7:18446744073709551616".toList = none := by decide

end CommandLine

end MarkdownHighlight
