import MarkdownHighlight.Text.Basic

/-!
What a pass writes to. A target shows the markup written last; it can be
emptied, or hidden until the next write.
-/

namespace MarkdownHighlight

class RenderTarget (Target : Type) where
  write : Text → Target → Target
  clear : Target → Target
  hide : Target → Target

/-- A bare text: hiding it empties it. -/
structure PlainTarget where
  markup : Text := []
  deriving DecidableEq, Repr

instance : RenderTarget PlainTarget where
  write markup _ := ⟨markup⟩
  clear _ := ⟨[]⟩
  hide _ := ⟨[]⟩

/-- A buffer that also remembers whether it is hidden and how often it was
written. -/
structure MarkupBuffer where
  markup : Text := []
  hidden : Bool := false
  writes : Nat := 0
  deriving DecidableEq, Repr

instance : RenderTarget MarkupBuffer where
  write markup b := ⟨markup, false, b.writes + 1⟩
  clear b := { b with markup := [] }
  hide b := { b with hidden := true }

/-- The buffers of an editor by name; a name that was never used stands for a
fresh buffer. -/
structure TargetStore where
  buffers : List (String × MarkupBuffer)
  deriving DecidableEq, Repr

namespace TargetStore

def empty : TargetStore := ⟨[]⟩

def get (s : TargetStore) (name : String) : MarkupBuffer := (s.buffers.lookup name).getD {}

def updateIn (name : String) (change : MarkupBuffer → MarkupBuffer) :
    List (String × MarkupBuffer) → List (String × MarkupBuffer)
  | [] => [(name, change {})]
  | (known, buffer) :: later =>
      if known = name then (known, change buffer) :: later
      else (known, buffer) :: updateIn name change later

def update (s : TargetStore) (name : String) (change : MarkupBuffer → MarkupBuffer) : TargetStore :=
  ⟨updateIn name change s.buffers⟩

theorem lookup_updateIn_of_ne {name other : String} (differ : other ≠ name)
    (change : MarkupBuffer → MarkupBuffer) (buffers : List (String × MarkupBuffer)) :
    (updateIn name change buffers).lookup other = buffers.lookup other := by
  induction buffers with
  | nil => rw [updateIn, List.lookup_cons, beq_false_of_ne differ]
  | cons first later ih =>
      obtain ⟨known, buffer⟩ := first
      rw [updateIn]
      split
      · rename_i same
        rw [List.lookup_cons, List.lookup_cons, same, beq_false_of_ne differ]
      · rw [List.lookup_cons, List.lookup_cons, ih]

theorem get_update_of_ne (s : TargetStore) {name other : String} (differ : other ≠ name)
    (change : MarkupBuffer → MarkupBuffer) : (s.update name change).get other = s.get other := by
  rw [get, get, update, lookup_updateIn_of_ne differ]

theorem lookup_updateIn (name : String) (change : MarkupBuffer → MarkupBuffer)
    (buffers : List (String × MarkupBuffer)) :
    (updateIn name change buffers).lookup name = some (change ((buffers.lookup name).getD {})) := by
  induction buffers with
  | nil => rw [updateIn, List.lookup_cons_self]; rfl
  | cons first later ih =>
      obtain ⟨known, buffer⟩ := first
      rw [updateIn]
      split
      · rename_i same
        rw [same, List.lookup_cons_self, List.lookup_cons_self, Option.getD_some]
      · rename_i differ
        rw [List.lookup_cons, List.lookup_cons, beq_false_of_ne (Ne.symm differ), ih]

theorem get_update (s : TargetStore) (name : String) (change : MarkupBuffer → MarkupBuffer) :
    (s.update name change).get name = change (s.get name) := by
  rw [get, get, update, lookup_updateIn, Option.getD_some]

/-- Writes received by all buffers together. -/
def totalWrites (s : TargetStore) : Nat := (s.buffers.map (·.2.writes)).foldl (· + ·) 0

theorem totalWrites_update (s : TargetStore) (name : String)
    (change : MarkupBuffer → MarkupBuffer)
    (counted : ∀ buffer, (change buffer).writes = buffer.writes + 1) :
    (s.update name change).totalWrites = s.totalWrites + 1 := by
  rw [totalWrites, totalWrites, ← List.sum_eq_foldl_nat, ← List.sum_eq_foldl_nat, update]
  induction s.buffers with
  | nil => simp [updateIn, counted]
  | cons first later ih =>
      rw [updateIn]
      split
      · simp only [List.map_cons, List.sum_cons, counted]
        omega
      · simp only [List.map_cons, List.sum_cons, ih]
        omega

end TargetStore

end MarkdownHighlight
