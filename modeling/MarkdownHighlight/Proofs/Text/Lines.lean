import MarkdownHighlight.Text.Lines

/-!
Lines and joined lines. Splitting at the newlines and joining again gives the
text back, a text falls into its lines wherever a newline stands, and lines
before and after a place join to the text around it.
-/

namespace MarkdownHighlight.Text

theorem lines_ne_nil (t : Text) : lines t ≠ [] := by
  cases t with
  | nil => simp [lines]
  | cons c rest =>
      rw [lines]
      split
      · simp
      · split <;> simp

theorem joinLines_cons_cons (first second : Text) (others : List Text) :
    joinLines (first :: second :: others) =
      first ++ newline :: joinLines (second :: others) := by
  simp [joinLines, List.intercalate, List.intersperse]

theorem joinLines_cons (first : Text) (others : List Text) (some : others ≠ []) :
    joinLines (first :: others) = first ++ newline :: joinLines others := by
  obtain ⟨second, later, rfl⟩ := List.exists_cons_of_ne_nil some
  exact joinLines_cons_cons first second later

theorem joinLines_singleton (line : Text) : joinLines [line] = line := by
  simp [joinLines, List.intercalate, List.intersperse]

@[simp] theorem joinLines_lines (t : Text) : joinLines (lines t) = t := by
  induction t with
  | nil => exact joinLines_singleton []
  | cons c rest ih =>
      rw [lines]
      split
      · rename_i ends
        rw [joinLines_cons _ _ (lines_ne_nil rest), ih, ends]
        rfl
      · obtain ⟨first, others, split⟩ := List.exists_cons_of_ne_nil (lines_ne_nil rest)
        -- The character joins the first line; only the last line has no newline behind it.
        rw [split] at ih ⊢
        cases others with
        | nil =>
            rw [joinLines_singleton] at ih ⊢
            rw [ih]
        | cons second later =>
            rw [joinLines_cons_cons] at ih ⊢
            rw [List.cons_append, ih]

theorem lines_append (a b : Text) : lines (a ++ newline :: b) = lines a ++ lines b := by
  induction a with
  | nil => simp [lines]
  | cons c rest ih =>
      rw [List.cons_append, lines, lines, ih]
      split
      · rfl
      · obtain ⟨first, others, split⟩ := List.exists_cons_of_ne_nil (lines_ne_nil rest)
        simp [split]

theorem length_lines (t : Text) : (lines t).length = t.count newline + 1 := by
  induction t with
  | nil => rfl
  | cons c rest ih =>
      obtain ⟨first, others, split⟩ := List.exists_cons_of_ne_nil (lines_ne_nil rest)
      rw [lines]
      by_cases ends : c = newline
      · rw [if_pos ends, ends, List.count_cons_self, List.length_cons, ih]
      · rw [if_neg ends, List.count_cons_of_ne ends, ← ih, split]
        rfl

theorem newline_not_mem_of_mem_lines (t : Text) : ∀ line ∈ lines t, newline ∉ line := by
  induction t with
  | nil => simp [lines]
  | cons c rest ih =>
      obtain ⟨first, others, split⟩ := List.exists_cons_of_ne_nil (lines_ne_nil rest)
      rw [split] at ih
      obtain ⟨here, there⟩ := List.forall_mem_cons.mp ih
      rw [lines, split]
      split
      · exact List.forall_mem_cons.mpr ⟨List.not_mem_nil, ih⟩
      · rename_i other
        refine List.forall_mem_cons.mpr ⟨?_, there⟩
        rw [List.mem_cons, not_or]
        exact ⟨fun same => other same.symm, here⟩

theorem lines_of_line (line : Text) (clean : newline ∉ line) : lines line = [line] := by
  induction line with
  | nil => rfl
  | cons c rest ih =>
      rw [List.mem_cons, not_or] at clean
      rw [lines, if_neg fun ends => clean.1 ends.symm, ih clean.2]

theorem lines_joinLines (ls : List Text) (some : ls ≠ []) (clean : ∀ line ∈ ls, newline ∉ line) :
    lines (joinLines ls) = ls := by
  induction ls with
  | nil => exact absurd rfl some
  | cons line later ih =>
      obtain ⟨here, there⟩ := List.forall_mem_cons.mp clean
      by_cases last : later = []
      · rw [last, joinLines_singleton, lines_of_line line here]
      · rw [joinLines_cons line later last, lines_append, lines_of_line line here, ih last there,
          List.singleton_append]

theorem joinLines_append (a b : List Text) (some : a ≠ []) (some' : b ≠ []) :
    joinLines (a ++ b) = joinLines a ++ newline :: joinLines b := by
  induction a with
  | nil => exact absurd rfl some
  | cons line later ih =>
      cases later with
      | nil => rw [joinLines_singleton, List.singleton_append, joinLines_cons _ _ some']
      | cons second others =>
          rw [joinLines_cons_cons, List.cons_append, joinLines_cons _ _ (by simp),
            ih (List.cons_ne_nil second others), List.append_assoc, List.cons_append]

theorem occursIn_iff (pattern t : Text) : occursIn pattern t = true ↔ pattern <:+: t := by
  induction t with
  | nil => simp [occursIn]
  | cons c rest ih =>
      rw [occursIn, Bool.or_eq_true, ih, List.isPrefixOf_iff_prefix, List.infix_cons_iff]

theorem occursIn_of_infix (pattern : Text) {part t : Text} (inside : part <:+: t)
    (missing : occursIn pattern t = false) : occursIn pattern part = false := by
  rw [Bool.eq_false_iff, ne_eq, occursIn_iff] at missing ⊢
  exact fun found => missing (found.trans inside)

end MarkdownHighlight.Text
