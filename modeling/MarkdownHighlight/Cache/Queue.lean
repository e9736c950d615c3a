/-!
A first-in first-out queue in two lists: arrivals are put on the back, and the
back is turned over when the front runs out.
-/

namespace MarkdownHighlight

structure Queue (Item : Type) where
  front : List Item
  back : List Item

namespace Queue

variable {Item : Type}

def empty : Queue Item := ⟨[], []⟩

/-- The items, oldest first. -/
def toList (q : Queue Item) : List Item := q.front ++ q.back.reverse

def length (q : Queue Item) : Nat := q.front.length + q.back.length

def push (q : Queue Item) (item : Item) : Queue Item := ⟨q.front, item :: q.back⟩

/-- The oldest item and the others. -/
def pop? (q : Queue Item) : Option (Item × Queue Item) :=
  match q.front with
  | item :: later => some (item, ⟨later, q.back⟩)
  | [] =>
      match q.back.reverse with
      | [] => none
      | item :: later => some (item, ⟨later, []⟩)

@[simp] theorem toList_empty : (empty : Queue Item).toList = [] := rfl

@[simp] theorem toList_push (q : Queue Item) (item : Item) :
    (q.push item).toList = q.toList ++ [item] := by
  simp [push, toList]

theorem length_toList (q : Queue Item) : q.toList.length = q.length := by
  rw [toList, length, List.length_append, List.length_reverse]

theorem toList_pop? (q : Queue Item) :
    q.pop?.map (fun r => r.1 :: r.2.toList) = match q.toList with
      | [] => none
      | item :: later => some (item :: later) := by
  unfold pop? toList
  split
  · simp_all
  · split <;> simp_all

end Queue

end MarkdownHighlight
