import Std.Data.TreeMap
import MarkdownHighlight.Cache.Key
import MarkdownHighlight.Cache.Queue

/-!
The cache of rendered markup. It is bounded and gives up entries strictly in
the order in which their keys first came in: reading an entry does not keep it
longer, and replacing its value leaves it in its place.
-/

namespace MarkdownHighlight

structure MarkupCache where
  capacity : Nat
  entries : Std.TreeMap CacheKey Text
  /-- The keys in the order in which they came in. -/
  order : Queue CacheKey

namespace MarkupCache

/-- Room for the entries is made at once, so the capacity is taken to be one for which
there is memory; with a larger one no cache comes about. -/
def empty (capacity : Nat) : MarkupCache := ⟨capacity, ∅, .empty⟩

def size (c : MarkupCache) : Nat := c.entries.size

def isEmpty (c : MarkupCache) : Bool := c.entries.isEmpty

def get? (c : MarkupCache) (key : CacheKey) : Option Text := c.entries[key]?

/-- Gives up the oldest entry, if there is one. -/
def dropOldest (c : MarkupCache) : MarkupCache :=
  match c.order.pop? with
  | none => c
  | some (oldest, order) => { c with entries := c.entries.erase oldest, order }

/-- Gives up the oldest entries until there is room for one more key in the queue. -/
def makeRoom (c : MarkupCache) : MarkupCache :=
  Nat.repeat dropOldest (c.order.length + 1 - c.capacity) c

/-- Stores markup under a key. Without capacity nothing is stored; a key that
is present keeps its place in the order. -/
def put (c : MarkupCache) (key : CacheKey) (markup : Text) : MarkupCache :=
  if c.capacity = 0 then c
  else if c.entries.contains key then { c with entries := c.entries.insert key markup }
  else
    let c := c.makeRoom
    { c with entries := c.entries.insert key markup, order := c.order.push key }

def clear (c : MarkupCache) : MarkupCache := { c with entries := ∅, order := .empty }

end MarkupCache

end MarkdownHighlight
