import MarkdownHighlight.Proofs.Cache.Entries
import MarkdownHighlight.Proofs.Run.History

/-!
The cache as a list. A first-in first-out map is a list of pairs in the order in which
their keys came in. The cache keeps such a list in two structures, the entries by key
and the queue of the keys; every operation keeps the two in step, so no run of
operations can tell the cache from the list.
-/

namespace MarkdownHighlight

structure FifoMap (Key Value : Type) where
  capacity : Nat
  /-- The pairs, the oldest first. -/
  pairs : List (Key × Value)

namespace FifoMap

variable {Key Value : Type}

def empty (capacity : Nat) : FifoMap Key Value := ⟨capacity, []⟩

def keys (m : FifoMap Key Value) : List Key := m.pairs.map (·.1)

def keepFewer (limit : Nat) : List (Key × Value) → List (Key × Value)
  | [] => []
  | oldest :: later => if limit ≤ later.length + 1 then keepFewer limit later else oldest :: later

def clear (m : FifoMap Key Value) : FifoMap Key Value := { m with pairs := [] }

theorem keepFewer_eq_drop (limit : Nat) (pairs : List (Key × Value)) :
    keepFewer limit pairs = pairs.drop (pairs.length + 1 - limit) := by
  induction pairs with
  | nil => rw [keepFewer, List.drop_nil]
  | cons oldest later ih =>
      rw [keepFewer]
      split
      · rename_i full
        rw [ih, List.length_cons, Nat.succ_sub full, List.drop_succ_cons]
      · rename_i room
        rw [List.length_cons, Nat.sub_eq_zero_of_le (Nat.not_le.mp room), List.drop_zero]

theorem length_keepFewer_lt {limit : Nat} (positive : limit ≠ 0) (pairs : List (Key × Value)) :
    (keepFewer limit pairs).length < limit := by
  rw [keepFewer_eq_drop, List.length_drop]
  omega

theorem mem_keys_of_keepFewer (m : FifoMap Key Value) {limit : Nat} {key : Key}
    (present : key ∈ FifoMap.keys ⟨m.capacity, keepFewer limit m.pairs⟩) : key ∈ m.keys := by
  rw [keepFewer_eq_drop, keys, List.map_drop] at present
  exact List.mem_of_mem_drop present

variable [DecidableEq Key]

def get? (m : FifoMap Key Value) (key : Key) : Option Value := m.pairs.lookup key

def replaceIn (key : Key) (value : Value) (pairs : List (Key × Value)) : List (Key × Value) :=
  pairs.map fun pair => if pair.1 = key then (key, value) else pair

def put (m : FifoMap Key Value) (key : Key) (value : Value) : FifoMap Key Value :=
  if m.capacity = 0 then m
  else if key ∈ m.keys then { m with pairs := replaceIn key value m.pairs }
  else { m with pairs := keepFewer m.capacity m.pairs ++ [(key, value)] }

theorem capacity_put (m : FifoMap Key Value) (key : Key) (value : Value) :
    (m.put key value).capacity = m.capacity := by
  rw [put]
  split
  · rfl
  · split <;> rfl

theorem mem_keys_iff (m : FifoMap Key Value) (key : Key) : key ∈ m.keys ↔ (m.get? key).isSome := by
  rw [get?, List.lookup_isSome_iff, keys, List.mem_map]
  refine exists_congr fun pair => and_congr_right fun _ => ?_
  rw [beq_iff_eq, eq_comm]

theorem get?_eq_none (m : FifoMap Key Value) (key : Key) (absent : key ∉ m.keys) :
    m.get? key = none := by
  rw [m.mem_keys_iff, Option.not_isSome_iff_eq_none] at absent
  exact absent

theorem keys_replaceIn (m : FifoMap Key Value) (key : Key) (value : Value) :
    keys ⟨m.capacity, replaceIn key value m.pairs⟩ = m.keys := by
  rw [keys, keys, replaceIn, List.map_map]
  apply List.map_congr_left
  intro pair _
  rw [Function.comp]
  split
  · rename_i same
    exact same.symm
  · rfl

theorem lookup_replaceIn (key other : Key) (value : Value) (pairs : List (Key × Value)) :
    (replaceIn key value pairs).lookup other =
      if other = key then (pairs.lookup key).map fun _ => value else pairs.lookup other := by
  induction pairs with
  | nil => simp [replaceIn]
  | cons first later ih =>
      obtain ⟨known, stored⟩ := first
      rw [replaceIn, List.map_cons, ← replaceIn]
      by_cases here : known = key
      · subst here
        by_cases same : other = known
        · simp [same]
        · simp [List.lookup_cons, beq_false_of_ne same, same, ih]
      · rw [if_neg here, List.lookup_cons, List.lookup_cons, List.lookup_cons,
          beq_false_of_ne (Ne.symm here), ih]
        by_cases same : other = known
        · simp [same, here]
        · simp [beq_false_of_ne same]

theorem get?_replaceIn (m : FifoMap Key Value) {key : Key} (present : key ∈ m.keys)
    (other : Key) (value : Value) :
    FifoMap.get? ⟨m.capacity, replaceIn key value m.pairs⟩ other =
      if other = key then some value else m.get? other := by
  obtain ⟨stored, found⟩ := Option.isSome_iff_exists.mp ((m.mem_keys_iff key).mp present)
  rw [get?] at found
  rw [get?, lookup_replaceIn, found]
  rfl

theorem get?_push (m : FifoMap Key Value) {key : Key} (absent : key ∉ m.keys) (other : Key)
    (value : Value) : FifoMap.get? ⟨m.capacity, m.pairs ++ [(key, value)]⟩ other =
      if other = key then some value else m.get? other := by
  have missing := m.get?_eq_none key absent
  rw [get?] at missing
  rw [get?, get?, List.lookup_append, List.lookup_cons, List.lookup_nil]
  by_cases same : other = key
  · simp [same, missing]
  · simp [same, beq_false_of_ne same]

end FifoMap

namespace MarkupCache

/-- A cache and the list that it stands for: the queue has the keys of the list, and
the entries have its values. -/
structure Holds (c : MarkupCache) (m : FifoMap CacheKey Text) : Prop where
  capacity : c.capacity = m.capacity
  order : c.order.toList = m.keys
  distinct : m.keys.Nodup
  found : ∀ key, c.get? key = m.get? key
  bounded : m.pairs.length ≤ m.capacity

namespace Holds

variable {c : MarkupCache} {m : FifoMap CacheKey Text}

theorem empty (capacity : Nat) : (empty capacity).Holds (.empty capacity) where
  capacity := rfl
  order := rfl
  distinct := List.nodup_nil
  found := get?_empty capacity
  bounded := Nat.zero_le capacity

theorem clear (holds : c.Holds m) : c.clear.Holds m.clear where
  capacity := holds.capacity
  order := rfl
  distinct := List.nodup_nil
  found := c.get?_clear
  bounded := Nat.zero_le _

theorem mem_entries (holds : c.Holds m) (key : CacheKey) : key ∈ c.entries ↔ key ∈ m.keys := by
  rw [Std.TreeMap.mem_iff_isSome_getElem?, m.mem_keys_iff, ← holds.found, MarkupCache.get?]

theorem keys_perm (holds : c.Holds m) : c.entries.keys.Perm c.order.toList := by
  rw [List.perm_ext_iff_of_nodup Std.TreeMap.nodup_keys (holds.order ▸ holds.distinct)]
  intro key
  rw [Std.TreeMap.mem_keys, holds.mem_entries, holds.order]

theorem length_order (holds : c.Holds m) : c.order.length = m.pairs.length := by
  rw [← Queue.length_toList, holds.order, FifoMap.keys, List.length_map]

theorem size_eq (holds : c.Holds m) : c.size = m.pairs.length := by
  rw [size, ← Std.TreeMap.length_keys, holds.keys_perm.length_eq, Queue.length_toList,
    holds.length_order]

theorem size_le (holds : c.Holds m) : c.size ≤ m.capacity := holds.size_eq ▸ holds.bounded

theorem dropOldest (holds : c.Holds m) :
    c.dropOldest.Holds { m with pairs := m.pairs.tail } := by
  obtain ⟨limit, pairs⟩ := m
  have popped := c.order.toList_pop?
  rw [holds.order] at popped
  cases pairs with
  | nil =>
      rw [MarkupCache.dropOldest, Option.map_eq_none_iff.mp popped]
      exact holds
  | cons oldest later =>
      obtain ⟨⟨key, order⟩, taken, same⟩ := Option.map_eq_some_iff.mp popped
      obtain ⟨rfl, rest⟩ := List.cons.inj same
      obtain ⟨absent, distinct⟩ := List.nodup_cons.mp holds.distinct
      rw [MarkupCache.dropOldest, taken]
      refine ⟨holds.capacity, rest, distinct, fun other => ?_, Nat.le_of_succ_le holds.bounded⟩
      have found := holds.found other
      rw [FifoMap.get?, List.lookup_cons] at found
      rw [get?_erase]
      by_cases gone : other = oldest.1
      · rw [if_pos gone, gone]
        exact (FifoMap.get?_eq_none ⟨limit, later⟩ oldest.1 absent).symm
      · rw [beq_false_of_ne gone] at found
        rw [if_neg gone]
        exact found

theorem makeRoom (holds : c.Holds m) :
    c.makeRoom.Holds { m with pairs := FifoMap.keepFewer m.capacity m.pairs } := by
  rw [MarkupCache.makeRoom, FifoMap.keepFewer_eq_drop, holds.length_order, holds.capacity]
  generalize m.pairs.length + 1 - m.capacity = count
  induction count with
  | zero => exact holds
  | succ count ih =>
      rw [← List.tail_drop]
      exact ih.dropOldest

theorem replace (holds : c.Holds m) {key : CacheKey} (present : key ∈ m.keys) (markup : Text) :
    Holds { c with entries := c.entries.insert key markup }
      { m with pairs := FifoMap.replaceIn key markup m.pairs } where
  capacity := holds.capacity
  order := holds.order.trans (m.keys_replaceIn key markup).symm
  distinct := (m.keys_replaceIn key markup).symm ▸ holds.distinct
  found := by
    intro other
    rw [get?_insert, m.get?_replaceIn present, holds.found]
  bounded := by
    rw [FifoMap.replaceIn, List.length_map]
    exact holds.bounded

theorem push (holds : c.Holds m) {key : CacheKey} (absent : key ∉ m.keys)
    (room : m.pairs.length < m.capacity) (markup : Text) :
    Holds { c with entries := c.entries.insert key markup, order := c.order.push key }
      { m with pairs := m.pairs ++ [(key, markup)] } where
  capacity := holds.capacity
  order := by
    rw [Queue.toList_push, holds.order, FifoMap.keys, FifoMap.keys, List.map_append]
    rfl
  distinct := by
    rw [FifoMap.keys, List.map_append]
    refine List.nodup_append.mpr ⟨holds.distinct, List.pairwise_singleton _ key, ?_⟩
    intro known inside new last same
    rw [List.mem_singleton.mp last] at same
    obtain rfl : known = key := same
    exact absent inside
  found := by
    intro other
    rw [get?_insert, m.get?_push absent, holds.found]
  bounded := by
    rw [List.length_append]
    exact room

theorem put (holds : c.Holds m) (key : CacheKey) (markup : Text) :
    (c.put key markup).Holds (m.put key markup) := by
  have present : c.entries.contains key = true ↔ key ∈ m.keys :=
    Std.TreeMap.contains_iff_mem.trans (holds.mem_entries key)
  rw [MarkupCache.put, FifoMap.put]
  by_cases none : m.capacity = 0
  · rw [if_pos none, if_pos (holds.capacity.trans none)]
    exact holds
  · rw [if_neg none, if_neg (holds.capacity ▸ none)]
    by_cases known : key ∈ m.keys
    · rw [if_pos known, if_pos (present.mpr known)]
      exact holds.replace known markup
    · rw [if_neg known, if_neg (mt present.mp known)]
      exact holds.makeRoom.push (mt m.mem_keys_of_keepFewer known)
        (FifoMap.length_keepFewer_lt none m.pairs) markup

end Holds

end MarkupCache

inductive CacheOperation where
  | put (key : CacheKey) (markup : Text)
  | get (key : CacheKey)
  | clear
  deriving DecidableEq, Repr

def MarkupCache.perform (c : MarkupCache) : CacheOperation → Option Text × MarkupCache
  | .put key markup => (none, c.put key markup)
  | .get key => (c.get? key, c)
  | .clear => (none, c.clear)

def FifoMap.perform (m : FifoMap CacheKey Text) :
    CacheOperation → Option Text × FifoMap CacheKey Text
  | .put key markup => (none, m.put key markup)
  | .get key => (m.get? key, m)
  | .clear => (none, m.clear)

theorem FifoMap.capacity_perform (m : FifoMap CacheKey Text) (operation : CacheOperation) :
    (m.perform operation).2.capacity = m.capacity := by
  cases operation with
  | put key markup => exact m.capacity_put key markup
  | get key => rfl
  | clear => rfl

namespace MarkupCache

theorem Holds.perform {c : MarkupCache} {m : FifoMap CacheKey Text} (holds : c.Holds m)
    (operation : CacheOperation) : (c.perform operation).1 = (m.perform operation).1 ∧
      (c.perform operation).2.Holds (m.perform operation).2 := by
  cases operation with
  | put key markup => exact ⟨rfl, holds.put key markup⟩
  | get key => exact ⟨holds.found key, holds⟩
  | clear => exact ⟨rfl, holds.clear⟩

/-- The cache is a first-in first-out map: it answers every run of operations as the list
does, and stands for the list that the run leads to. The entries and the queue have the
same keys, each once, and never more than there is room for. -/
theorem runs_as_fifo (capacity : Nat) (operations : List CacheOperation) :
    let c := Run.reached perform (.empty capacity) operations
    let m := Run.reached FifoMap.perform (.empty capacity) operations
    Run.history perform (.empty capacity) operations =
        Run.history FifoMap.perform (.empty capacity) operations ∧
      c.order.toList = m.keys ∧ m.keys.Nodup ∧ (∀ key, c.get? key = m.get? key) ∧
      c.size = m.pairs.length ∧ c.isEmpty = m.pairs.isEmpty ∧
      c.entries.keys.Perm c.order.toList ∧ c.order.toList.Nodup ∧
      c.capacity = capacity ∧ c.size ≤ capacity := by
  intro c m
  obtain ⟨answers, holds, kept⟩ := Run.simulates perform FifoMap.perform
    (fun c m => c.Holds m ∧ m.capacity = capacity)
    (fun c m operation related =>
      ⟨(related.1.perform operation).1, (related.1.perform operation).2,
        (m.capacity_perform operation).trans related.2⟩)
    ⟨.empty capacity, rfl⟩ operations
  refine ⟨answers, holds.order, holds.distinct, holds.found, holds.size_eq, ?_,
    holds.keys_perm, holds.order ▸ holds.distinct, holds.capacity.trans kept, ?_⟩
  · rw [isEmpty, Std.TreeMap.isEmpty_eq_size_eq_zero, Bool.eq_iff_iff, beq_iff_eq,
      List.isEmpty_iff_length_eq_zero, ← holds.size_eq]
    rfl
  · exact kept ▸ holds.size_le

end MarkupCache

end MarkdownHighlight
