import MarkdownHighlight.Cache.Store
import Std.Data.TreeMap.Lemmas

/-!
What the cache holds. An entry only comes in by being stored: making room,
dropping the oldest and clearing leave entries as they were or take them away,
so what is found under a key was stored there last.
-/

namespace MarkdownHighlight

namespace CacheKey

theorem compare_eq_iff (a b : CacheKey) : compare a b = .eq ↔ a = b := by
  obtain ⟨first⟩ := a
  obtain ⟨second⟩ := b
  have hashes : compare first second = .eq ↔ first = second := Std.LawfulEqOrd.compare_eq_iff_eq
  rw [CacheKey.mk.injEq, ← hashes]
  rfl

instance : Std.TransOrd CacheKey := inferInstanceAs (Std.TransCmp (compareOn CacheKey.hash))

instance : Std.LawfulEqOrd CacheKey := ⟨fun same => (compare_eq_iff _ _).mp same⟩

end CacheKey

namespace MarkupCache

variable {c : MarkupCache} {key other : CacheKey} {markup stored : Text}

theorem get?_empty (capacity : Nat) (key : CacheKey) : (empty capacity).get? key = none :=
  Std.TreeMap.getElem?_emptyc

theorem get?_clear (c : MarkupCache) (key : CacheKey) : c.clear.get? key = none :=
  Std.TreeMap.getElem?_emptyc

theorem get?_insert (c : MarkupCache) (order : Queue CacheKey) (key other : CacheKey)
    (markup : Text) : MarkupCache.get? ⟨c.capacity, c.entries.insert key markup, order⟩ other =
      if other = key then some markup else c.get? other := by
  simp only [get?, Std.TreeMap.getElem?_insert, CacheKey.compare_eq_iff, @eq_comm _ other key]

theorem get?_erase (c : MarkupCache) (order : Queue CacheKey) (key other : CacheKey) :
    MarkupCache.get? ⟨c.capacity, c.entries.erase key, order⟩ other =
      if other = key then none else c.get? other := by
  simp only [get?, Std.TreeMap.getElem?_erase, CacheKey.compare_eq_iff, @eq_comm _ other key]

theorem get?_of_insert (order : Queue CacheKey)
    (found : MarkupCache.get? ⟨c.capacity, c.entries.insert key markup, order⟩ other = some stored) :
    (other = key ∧ stored = markup) ∨ c.get? other = some stored := by
  rw [get?_insert] at found
  split at found
  · rename_i same
    exact Or.inl ⟨same, (Option.some.inj found).symm⟩
  · exact Or.inr found

theorem get?_of_dropOldest (found : c.dropOldest.get? key = some stored) :
    c.get? key = some stored := by
  unfold dropOldest at found
  cases popped : c.order.pop? with
  | none =>
      rw [popped] at found
      exact found
  | some oldest =>
      simp only [popped, get?_erase] at found
      split at found
      · cases found
      · exact found

theorem get?_of_makeRoom (found : c.makeRoom.get? key = some stored) :
    c.get? key = some stored := by
  rw [makeRoom] at found
  generalize c.order.length + 1 - c.capacity = count at found
  induction count with
  | zero => exact found
  | succ count ih => exact ih (get?_of_dropOldest found)

theorem get?_of_put (found : (c.put key markup).get? other = some stored) :
    (other = key ∧ stored = markup) ∨ c.get? other = some stored := by
  unfold put at found
  split at found
  · exact Or.inr found
  · split at found
    · exact get?_of_insert c.order found
    · rcases get?_of_insert (c := c.makeRoom) _ found with stored | before
      · exact Or.inl stored
      · exact Or.inr (get?_of_makeRoom before)

end MarkupCache

end MarkdownHighlight
