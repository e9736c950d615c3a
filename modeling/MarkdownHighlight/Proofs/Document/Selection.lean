import Mathlib.Algebra.Group.Nat.Defs
import MarkdownHighlight.Proofs.Document.Slices

/-!
Which lines a viewport selects. They are the lines that exist among the visible ones and
those within the margin of them; when there is none, the last line. Line numbers need no
more than 64 bits: sums and differences that stop at the ends of that range select the same
lines, and the selected range never reaches beyond the document.
-/

namespace MarkdownHighlight

open Text (joinLines)

def largest : UInt64 := 0xffffffffffffffff

def boundedSum (a b : UInt64) : UInt64 := if a + b < a then largest else a + b

def boundedDifference (a b : UInt64) : UInt64 := if a < b then 0 else a - b

/-- The lines from `start` to `stop`, both included. A range that ends beyond the lines or
starts behind its end is refused, and so is one whose end has no successor. -/
def linesBetween? (lines : List Text) (start stop : UInt64) : Option (List Text) :=
  if stop = largest ∨ stop + 1 < start ∨ lines.length < (stop + 1).toNat then none
  else some ((lines.take (stop + 1).toNat).drop start.toNat)

def Narrowing.selectWords? (n : Narrowing) (lines : List Text) (viewport? : Option Viewport) :
    Option LineSlice :=
  let lastLine := boundedDifference (.ofNat lines.length) 1
  let whole : LineSlice := ⟨joinLines lines, 0, lastLine.toNat⟩
  match viewport? with
  | none => some whole
  | some v =>
      if lines.isEmpty || UInt64.ofNat lines.length < n.lineLimit then some whole
      else
        let stop := min (boundedSum v.last n.margin) lastLine
        let start := min (boundedDifference v.first n.margin) stop
        (linesBetween? lines start stop).map (⟨joinLines ·, start.toNat, stop.toNat⟩)

section Words

variable (a b : UInt64)

theorem toNat_largest : largest.toNat = 2 ^ 64 - 1 := rfl

theorem toNat_boundedSum : (boundedSum a b).toNat = min (a.toNat + b.toNat) (2 ^ 64 - 1) := by
  have small := a.toNat_lt
  have small' := b.toNat_lt
  have sum := UInt64.toNat_add a b
  rw [boundedSum]
  split
  · rename_i wrapped
    rw [UInt64.lt_iff_toNat_lt] at wrapped
    rw [toNat_largest]
    omega
  · rename_i exact
    rw [UInt64.lt_iff_toNat_lt] at exact
    omega

theorem toNat_boundedDifference : (boundedDifference a b).toNat = a.toNat - b.toNat := by
  rw [boundedDifference]
  split
  · rename_i less
    rw [UInt64.lt_iff_toNat_lt] at less
    exact (Nat.sub_eq_zero_of_le (Nat.le_of_lt less)).symm
  · rename_i enough
    exact UInt64.toNat_sub_of_le a b (UInt64.not_lt.mp enough)

theorem toNat_min : (min a b).toNat = min a.toNat b.toNat := by
  change (if a ≤ b then a else b).toNat = _
  split
  · rename_i le
    exact (Nat.min_eq_left (UInt64.le_iff_toNat_le.mp le)).symm
  · rename_i greater
    have less := UInt64.lt_iff_toNat_lt.mp (UInt64.not_le.mp greater)
    exact (Nat.min_eq_right (Nat.le_of_lt less)).symm

end Words

theorem linesBetween?_eq {lines : List Text} {start stop : UInt64}
    (order : start.toNat ≤ stop.toNat) (bound : stop.toNat < lines.length)
    (short : lines.length < 2 ^ 64) :
    linesBetween? lines start stop =
      some ((lines.drop start.toNat).take (stop.toNat + 1 - start.toNat)) := by
  have next : (stop + 1).toNat = stop.toNat + 1 := by
    rw [UInt64.toNat_add]
    exact Nat.mod_eq_of_lt (by simp; omega)
  have last : stop ≠ largest := by
    rintro rfl
    rw [toNat_largest] at bound
    omega
  have inside : ¬ (stop = largest ∨ stop + 1 < start ∨ lines.length < (stop + 1).toNat) := by
    rw [UInt64.lt_iff_toNat_lt, next, not_or]
    exact ⟨last, by omega⟩
  rw [linesBetween?, if_neg inside, next, List.drop_take]

/-- Line numbers of 64 bits are enough for every document whose lines they can count. -/
theorem Narrowing.selectWords?_eq (n : Narrowing) (lines : List Text)
    (viewport? : Option Viewport) (short : lines.length < 2 ^ 64) :
    n.selectWords? lines viewport? = some (n.select lines viewport?) := by
  have count : (UInt64.ofNat lines.length).toNat = lines.length := UInt64.toNat_ofNat_of_lt' short
  have lastLine : (boundedDifference (.ofNat lines.length) 1).toNat = lines.length - 1 := by
    rw [toNat_boundedDifference, count]
    rfl
  cases viewport? with
  | none => simp only [selectWords?, select, lastLine]
  | some v =>
      have limit : (UInt64.ofNat lines.length < n.lineLimit) ↔
          lines.length < n.lineLimit.toNat := by rw [UInt64.lt_iff_toNat_lt, count]
      simp only [selectWords?, select, limit, lastLine]
      split
      · rfl
      · rename_i narrowed
        have more : 0 < lines.length := by
          simp only [Bool.or_eq_true, not_or, List.isEmpty_iff] at narrowed
          exact List.length_pos_iff.mpr narrowed.1
        have stop : (min (boundedSum v.last n.margin)
            (boundedDifference (.ofNat lines.length) 1)).toNat =
              min (v.last.toNat + n.margin.toNat) (lines.length - 1) := by
          -- The bound of the words is not below the last line, so the last line decides.
          rw [toNat_min, toNat_boundedSum, lastLine]
          omega
        have start : (min (boundedDifference v.first n.margin)
            (min (boundedSum v.last n.margin)
              (boundedDifference (.ofNat lines.length) 1))).toNat =
              min (v.first.toNat - n.margin.toNat)
                (min (v.last.toNat + n.margin.toNat) (lines.length - 1)) := by
          rw [toNat_min, toNat_boundedDifference, stop]
        rw [linesBetween?_eq (by omega) (by omega) short, Option.map_some, start, stop]

structure LineSlice.Margined (slice : LineSlice) (lineCount : Nat) (v : Viewport)
    (margin : Nat) : Prop where
  stop : slice.stop = min (v.last.toNat + margin) (lineCount - 1)
  shown : ∀ line < lineCount, v.first.toNat ≤ line → line ≤ v.last.toNat →
    slice.start ≤ line ∧ line ≤ slice.stop
  /-- Where the margin reaches a line, exactly the lines within the margin are selected. -/
  near : v.first.toNat < lineCount + margin → ∀ line < lineCount,
    (slice.start ≤ line ∧ line ≤ slice.stop ↔
      v.first.toNat ≤ line + margin ∧ line ≤ v.last.toNat + margin)
  /-- Where it reaches none, the last line is. -/
  past : lineCount + margin ≤ v.first.toNat →
    slice.start = lineCount - 1 ∧ slice.stop = lineCount - 1

theorem Narrowing.select_of_whole (n : Narrowing) (lines : List Text)
    (viewport? : Option Viewport) (whole : viewport? = none ∨ lines.length < n.lineLimit.toNat) :
    n.select lines viewport? = ⟨joinLines lines, 0, lines.length - 1⟩ := by
  cases viewport? with
  | none => rfl
  | some v =>
      have short : lines.length < n.lineLimit.toNat := whole.resolve_left (by simp)
      simp [select, short]

theorem Narrowing.select_margined {n : Narrowing} {lines : List Text} {v : Viewport}
    (some : lines ≠ []) (long : n.lineLimit.toNat ≤ lines.length) (upright : v.first ≤ v.last) :
    (n.select lines (.some v)).Margined lines.length v n.margin.toNat := by
  have more := List.length_pos_iff.mpr some
  have order := UInt64.le_iff_toNat_le.mp upright
  have narrowed : (lines.isEmpty || decide (lines.length < n.lineLimit.toNat)) = false := by
    simp [some, long]
  rw [select, narrowed, if_neg Bool.false_ne_true]
  refine ⟨rfl, ?_, ?_, ?_⟩ <;> simp only <;> omega

/-- The selected lines for every viewport: a range of lines that exist, counted in 64 bits;
all of them for a short document, and otherwise those around what is visible. -/
theorem Narrowing.select_around_viewport (n : Narrowing) (lines : List Text)
    (viewport? : Option Viewport) (some : lines ≠ []) :
    (lines.length < 2 ^ 64 →
        n.selectWords? lines viewport? = .some (n.select lines viewport?)) ∧
      (n.select lines viewport?).Within lines ∧
      (viewport? = none ∨ lines.length < n.lineLimit.toNat →
        n.select lines viewport? = ⟨joinLines lines, 0, lines.length - 1⟩) ∧
      ∀ v, viewport? = .some v → n.lineLimit.toNat ≤ lines.length → v.first ≤ v.last →
        (n.select lines viewport?).Margined lines.length v n.margin.toNat := by
  refine ⟨n.selectWords?_eq lines viewport?, n.select_within lines viewport? some,
    n.select_of_whole lines viewport?, ?_⟩
  rintro v rfl long upright
  exact select_margined some long upright

/-- A viewport that begins behind the end and goes on to the largest number, with the last line
still within the margin. -/
theorem Narrowing.select_around_viewport_behind_end :
    let n : Narrowing := ⟨2, 2⟩
    let lines : List Text := ["a".toList, "b".toList, "c".toList]
    let v : Viewport := ⟨4, largest⟩
    lines ≠ [] ∧ lines.length < 2 ^ 64 ∧ n.lineLimit.toNat ≤ lines.length ∧ v.first ≤ v.last ∧
      n.selectWords? lines (some v) = some ⟨"c".toList, 2, 2⟩ ∧
      (n.select lines (some v)).Within lines ∧ (n.select lines (some v)).Margined 3 v 2 := by
  intro n lines v
  have some : lines ≠ [] := List.cons_ne_nil _ _
  have short : lines.length < 2 ^ 64 := by decide
  have long : n.lineLimit.toNat ≤ lines.length := by decide
  have upright : v.first ≤ v.last := by decide
  obtain ⟨counted, within, _, margined⟩ := select_around_viewport n lines (.some v) some
  have selected : n.select lines (.some v) = ⟨"c".toList, 2, 2⟩ := by decide
  exact ⟨some, short, long, upright, selected ▸ counted short, within, margined v rfl long upright⟩

end MarkdownHighlight
