import Mathlib.Algebra.Group.Nat.Defs
import Mathlib.Data.List.Basic
import MarkdownHighlight.Cache.Key
import MarkdownHighlight.Proofs.Text.Decimal

/-!
What the key of a request hashes: one byte string, in which the byte 255 ends the content and
the viewport follows in decimal. No other byte of it is 255 and no number has a colon, so the
request can be read off the string; requests share a key only where the hash collides.
-/

namespace MarkdownHighlight

/-- The 64-bit FNV-1a hash in exact arithmetic: from the offset basis on, each byte is xored
in, and the product with the prime is taken modulo `2 ^ 64`. -/
def exactFnv1a (bytes : List UInt8) : Nat :=
  bytes.foldl (fun hash byte => (hash ^^^ byte.toNat) * 1099511628211 % 2 ^ 64)
    14695981039346656037

section Hash

theorem fnv1aFrom_append (basis : UInt64) (first second : List UInt8) :
    fnv1aFrom basis (first ++ second) = fnv1aFrom (fnv1aFrom basis first) second :=
  List.foldl_append

theorem toNat_fnv1a (bytes : List UInt8) : (fnv1a bytes).toNat = exactFnv1a bytes := by
  have step : ∀ (hash : UInt64) (byte : UInt8),
      (hash.toNat ^^^ byte.toNat) * 1099511628211 % 2 ^ 64 =
        ((hash ^^^ byte.toUInt64) * 0x00000100000001B3).toNat := by
    intro hash byte
    rw [UInt64.toNat_mul, UInt64.toNat_xor, UInt8.toNat_toUInt64]
    rfl
  exact (List.foldl_hom UInt64.toNat step).symm

end Hash

namespace Text

theorem utf8_eq (t : Text) : t.utf8 = (String.ofList t).toUTF8.data.toList := by
  rw [String.toUTF8_eq_toByteArray, String.toByteArray_ofList, List.utf8Encode,
    List.toList_data_toByteArray]
  rfl

theorem utf8_injective {a b : Text} (same : a.utf8 = b.utf8) : a = b := by
  have bytes := List.toByteArray_inj.mpr same
  apply String.ofList_inj.mp
  apply String.toByteArray_inj.mp
  rwa [String.toByteArray_ofList, String.toByteArray_ofList]

theorem not_mem_utf8 (t : Text) : 0xff ∉ t.utf8 := by
  intro member
  obtain ⟨ch, _, inside⟩ := List.mem_flatMap.mp member
  have apart : ∀ value < 255, (0xff : UInt8) ≠ UInt8.ofNat value := by
    intro value small same
    have exact := congrArg UInt8.toNat same
    rw [UInt8.toNat_ofNat_of_lt' (by simp only [UInt8.size]; omega)] at exact
    exact absurd exact.symm (Nat.ne_of_lt small)
  simp only [String.utf8EncodeChar] at inside
  split at inside
  · exact apart _ (by omega) (List.mem_singleton.mp inside)
  · split at inside
    · simp only [List.mem_cons, List.not_mem_nil, or_false] at inside
      rcases inside with same | same <;> exact apart _ (by omega) same
    · split at inside
      all_goals
        simp only [List.mem_cons, List.not_mem_nil, or_false] at inside
      · rcases inside with same | same | same <;> exact apart _ (by omega) same
      · rcases inside with same | same | same | same <;> exact apart _ (by omega) same

theorem toDigits_injective {m n : Nat} (same : Nat.toDigits 10 m = Nat.toDigits 10 n) : m = n := by
  rw [← numberOf_toDigits m, same, numberOf_toDigits]

theorem not_mem_toDigits {ch : Char} (other : ch.isDigit = false) (n : Nat) :
    ch ∉ Nat.toDigits 10 n := by
  intro inside
  rw [isDigit_of_mem_toDigits inside] at other
  cases other

end Text

theorem Viewport.fingerprint_injective {v w : Viewport} (same : v.fingerprint = w.fingerprint) :
    v = w := by
  have colon := Text.not_mem_toDigits (show ':'.isDigit = false by decide)
  obtain ⟨first, _, last⟩ := (List.append_cons_inj_of_notMem (colon _) (colon _)).mp same
  have firsts := UInt64.toNat_inj.mp (Text.toDigits_injective first)
  have lasts := UInt64.toNat_inj.mp (Text.toDigits_injective last)
  cases v
  cases w
  rw [Viewport.mk.injEq]
  exact ⟨firsts, lasts⟩

namespace CacheKey

variable {content content' : Text} {viewport? viewport?' : Option Viewport}

theorem scope_injective (same : scope viewport? = scope viewport?') : viewport? = viewport?' := by
  -- A colon tells a viewport from the word for all lines.
  have marked : ∀ v : Viewport, ':' ∈ v.fingerprint := fun v => by simp [Viewport.fingerprint]
  have unmarked : ':' ∉ "full".toList := by decide
  cases viewport? with
  | none =>
      cases viewport?' with
      | none => rfl
      | some w =>
          change "full".toList = w.fingerprint at same
          exact absurd (same ▸ marked w) unmarked
  | some v =>
      cases viewport?' with
      | none =>
          change v.fingerprint = "full".toList at same
          exact absurd (same ▸ marked v) unmarked
      | some w => rw [Viewport.fingerprint_injective same]

theorem bytes_inj : bytes content viewport? = bytes content' viewport?' ↔
    content = content' ∧ viewport? = viewport?' := by
  constructor
  · intro same
    obtain ⟨front, _, back⟩ := (List.append_cons_inj_of_notMem (Text.not_mem_utf8 _)
      (Text.not_mem_utf8 _)).mp same
    exact ⟨Text.utf8_injective front, scope_injective (Text.utf8_injective back)⟩
  · rintro ⟨rfl, rfl⟩
    rfl

def writtenScope : Option Viewport → String
  | none => "full"
  | some v => toString v.first ++ ":" ++ toString v.last

def encoding (content : Text) (viewport? : Option Viewport) : List UInt8 :=
  (String.ofList content).toUTF8.data.toList ++ [0xff] ++
    (writtenScope viewport?).toUTF8.data.toList

theorem toList_writtenScope (viewport? : Option Viewport) :
    (writtenScope viewport?).toList = scope viewport? := by
  cases viewport? with
  | none => rfl
  | some v =>
      change (v.first.toNat.repr ++ ":" ++ v.last.toNat.repr).toList = v.fingerprint
      simp [Viewport.fingerprint, Nat.repr_eq_ofList_toDigits]

theorem bytes_eq (content : Text) (viewport? : Option Viewport) :
    bytes content viewport? = encoding content viewport? := by
  rw [bytes, encoding, Text.utf8_eq, Text.utf8_eq, ← toList_writtenScope, String.ofList_toList,
    List.append_assoc]
  rfl

theorem hash_ofRequest (content : Text) (viewport? : Option Viewport) :
    (ofRequest content viewport?).hash.toNat = exactFnv1a (encoding content viewport?) := by
  rw [ofRequest, toNat_fnv1a, bytes_eq]

theorem ofRequest_chained (content : Text) (viewport? : Option Viewport) :
    ofRequest content viewport? =
      ⟨fnv1aFrom (fnv1aFrom (fnv1a content.utf8) [0xff]) (scope viewport?).utf8⟩ := by
  rw [ofRequest, bytes, fnv1a, fnv1a, ← fnv1aFrom_append, ← fnv1aFrom_append,
    List.singleton_append]

/-- A key is the hash of an encoding that no two requests share, so different requests have
one key only where the hash of different byte strings is the same. -/
theorem ofRequest_separates (content content' : Text) (viewport? viewport?' : Option Viewport) :
    ((ofRequest content viewport?).hash.toNat = exactFnv1a (encoding content viewport?) ∧
      ofRequest content viewport? =
        ⟨fnv1aFrom (fnv1aFrom (fnv1a content.utf8) [0xff]) (scope viewport?).utf8⟩) ∧
    (encoding content viewport? = encoding content' viewport?' ↔
      content = content' ∧ viewport? = viewport?') ∧
    (ofRequest content viewport? = ofRequest content' viewport?' →
      (content = content' ∧ viewport? = viewport?') ∨
        encoding content viewport? ≠ encoding content' viewport?' ∧
          exactFnv1a (encoding content viewport?) = exactFnv1a (encoding content' viewport?')) := by
  have read : encoding content viewport? = encoding content' viewport?' ↔
      content = content' ∧ viewport? = viewport?' := by
    rw [← bytes_eq, ← bytes_eq, bytes_inj]
  refine ⟨⟨hash_ofRequest content viewport?, ofRequest_chained content viewport?⟩, read, ?_⟩
  intro shared
  by_cases same : content = content' ∧ viewport? = viewport?'
  · exact Or.inl same
  · refine Or.inr ⟨mt read.mp same, ?_⟩
    rw [← hash_ofRequest, ← hash_ofRequest, shared]

end CacheKey

end MarkdownHighlight
