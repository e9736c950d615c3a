import MarkdownHighlight.Document.Viewport

/-!
Keys of highlight requests: a 64-bit hash of the content, a byte that no UTF-8
text contains, and the viewport or the word `full`. Different requests have
different byte strings, so they share a key only if the hash collides.
-/

namespace MarkdownHighlight

/-- The UTF-8 form of a text. -/
def Text.utf8 (t : Text) : List UInt8 := t.flatMap String.utf8EncodeChar

/-- The 64-bit FNV-1a hash: for each byte, xor it in, then multiply. -/
def fnv1aFrom (basis : UInt64) (bytes : List UInt8) : UInt64 :=
  bytes.foldl (fun hash byte => (hash ^^^ byte.toUInt64) * 0x00000100000001B3) basis

def fnv1a (bytes : List UInt8) : UInt64 := fnv1aFrom 0xcbf29ce484222325 bytes

structure CacheKey where
  hash : UInt64
  deriving DecidableEq, Repr

namespace CacheKey

def scope (viewport? : Option Viewport) : Text :=
  match viewport? with
  | none => "full".toList
  | some v => v.fingerprint

/-- The bytes that are hashed for a request. -/
def bytes (content : Text) (viewport? : Option Viewport) : List UInt8 :=
  content.utf8 ++ 0xff :: (scope viewport?).utf8

def ofRequest (content : Text) (viewport? : Option Viewport) : CacheKey :=
  ⟨fnv1a (bytes content viewport?)⟩

instance : Ord CacheKey := ⟨fun a b => compare a.hash b.hash⟩

end CacheKey

end MarkdownHighlight
