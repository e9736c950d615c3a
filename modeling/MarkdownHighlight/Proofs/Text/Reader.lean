import MarkdownHighlight.Text.Reader

/-!
How readers run. What a compound reader does at a text is known from what its parts
do: the second part of a sequence goes on where the first one stopped, an alternative
starts over, and a repetition takes rounds for as long as there is one.
-/

namespace MarkdownHighlight.Reader

variable {α β : Type}

section Compounds

variable (r : Reader α) (t : Text)

@[simp] theorem pure_apply (a : α) : (pure a : Reader α) t = some (a, t) := rfl

@[simp] theorem failure_apply : (failure : Reader α) t = none := rfl

@[simp] theorem bind_apply (f : α → Reader β) :
    (r >>= f) t = (r t).bind fun taken => f taken.1 taken.2 := rfl

@[simp] theorem map_apply (f : α → β) :
    (f <$> r) t = (r t).map fun taken => (f taken.1, taken.2) := by
  change (r t).bind (fun taken => some (f taken.1, taken.2)) = _
  cases r t <;> rfl

@[simp] theorem orElse_apply (other : Reader α) :
    (r <|> other) t = (r t).orElse fun _ => other t := by
  change (r t <|> other t) = _
  cases r t <;> rfl

@[simp] theorem optional_apply :
    optional r t = some (((r t).map (·.1)), ((r t).map (·.2)).getD t) := by
  rw [optional, orElse_apply, map_apply]
  cases r t <;> rfl

end Compounds

section Parts

variable {test : Char → Bool} {w t : Text}

@[simp] theorem peek?_apply (t : Text) : peek? t = some (t.head?, t) := rfl

@[simp] theorem satisfy_cons (test : Char → Bool) (c : Char) (t : Text) :
    satisfy test (c :: t) = if test c then some (c, t) else none := rfl

@[simp] theorem char_cons (c d : Char) (t : Text) :
    char c (d :: t) = if d = c then some ((), t) else none := by
  rw [char, bind_apply, satisfy_cons]
  by_cases same : d = c <;> simp [same]

theorem literal_of_not_prefix (apart : ¬ w <+: t) : literal w t = none := by
  rw [literal, if_neg (by rwa [List.isPrefixOf_iff_prefix])]

theorem run_append (all : ∀ ch ∈ w, test ch = true)
    (ended : ∀ ch, t.head? = some ch → test ch = false) : run test (w ++ t) = some (w, t) := by
  rw [run, List.takeWhile_append_of_pos all, List.dropWhile_append_of_pos all]
  cases t with
  | nil => simp
  | cons ch later => simp [ended ch rfl]

theorem run1_append (some : w ≠ []) (all : ∀ ch ∈ w, test ch = true)
    (ended : ∀ ch, t.head? = .some ch → test ch = false) :
    run1 test (w ++ t) = .some (w, t) := by
  rw [run1, bind_apply, run_append all ended]
  simp [some]

end Parts

inductive Rounds (r : Reader α) : Text → List α → Text → Prop
  | stop {t : Text} (failed : r t = none) : Rounds r t [] t
  | step {t u v : Text} {a : α} {later : List α} (first : r t = some (a, u))
      (shorter : u.length < t.length) (rest : Rounds r u later v) : Rounds r t (a :: later) v

namespace Rounds

variable {r : Reader α} {w t u : Text} {taken : List α}

theorem cons {a : α} (some : w ≠ []) (first : r (w ++ t) = .some (a, t))
    (rest : Rounds r t taken u) : Rounds r (w ++ t) (a :: taken) u := by
  have shorter := List.length_pos_iff.mpr some
  exact .step first (by rw [List.length_append]; omega) rest

theorem manyWithin (rounds : Rounds r t taken u) (bound : Text)
    (enough : t.length ≤ bound.length) : Reader.manyWithin r bound t = some (taken, u) := by
  induction rounds generalizing bound with
  | stop failed => cases bound <;> simp [Reader.manyWithin, failed]
  | step first shorter _ ih =>
      -- A round takes a character at least, so the bound is not used up before it.
      cases bound with
      | nil =>
          rw [List.length_nil] at enough
          omega
      | cons _ later =>
          rw [List.length_cons] at enough
          have rest := ih later (by omega)
          simp [Reader.manyWithin, first, rest]

theorem many (rounds : Rounds r t taken u) : Reader.many r t = some (taken, u) :=
  rounds.manyWithin t (Nat.le_refl _)

end Rounds

end MarkdownHighlight.Reader
