import MarkdownHighlight.Text.Blank
import MarkdownHighlight.Text.CaseFold
import MarkdownHighlight.Text.CodeRun
import MarkdownHighlight.Text.DecimalDigit
import MarkdownHighlight.Text.WordChar

/-!
Sets of characters as a regular expression writes them. The named classes stay
names, so a set is as small as its source and is only opened when a character
is tested.
-/

namespace MarkdownHighlight

/-- Which characters have another case. -/
inductive Casing where
  | ascii
  | unicode
  deriving DecidableEq, Repr

/-- The characters that differ from `c` by case only, `c` among them. -/
def Casing.variants : Casing → Char → List Char
  | .ascii => Text.asciiVariants
  | .unicode => Text.caseVariants

inductive CharSet where
  | none
  | any
  | single (c : Char)
  | range (first last : Char)
  | blank
  | digit
  | word
  | runs (table : List CodeRun)
  | complement (s : CharSet)
  | union (a b : CharSet)
  | both (a b : CharSet)
  /-- The members of exactly one of the two. -/
  | either (a b : CharSet)
  /-- Every character that differs from a member by case only, of ASCII letters
  or of all characters. -/
  | caseless (casing : Casing) (s : CharSet)
  deriving DecidableEq, Repr

namespace CharSet

def test : CharSet → Char → Bool
  | .none, _ => false
  | .any, _ => true
  | .single c, x => x == c
  | .range first last, x => first ≤ x && x ≤ last
  | .blank, x => Text.isBlank x
  | .digit, x => Text.isDecimalDigit x
  | .word, x => Text.isWordChar x
  | .runs table, x => table.any (·.contains x.toNat)
  | .complement s, x => !s.test x
  | .union a b, x => a.test x || b.test x
  | .both a b, x => a.test x && b.test x
  | .either a b, x => a.test x != b.test x
  | .caseless casing s, x => (casing.variants x).any s.test

/-- A table as it is written. -/
def table (written : String) : CharSet := .runs (CodeRun.readTable written)

/-- The union of the items of a bracketed class, in the order they are written. -/
def ofItems : List CharSet → CharSet
  | [] => .none
  | [s] => s
  | s :: later => .union s (ofItems later)

/-- One of the given characters. -/
def oneOf (cs : String) : CharSet := ofItems (cs.toList.map .single)

/-- The members of the first set that are not in the second. -/
def difference (a b : CharSet) : CharSet := .both a (.complement b)

/-- Whether the set is known to hold each character together with all that
differ from it by case only. -/
def isCaseClosed (casing : Casing) : CharSet → Bool
  | .none | .any | .blank | .digit | .word => true
  | .single _ | .range _ _ | .runs _ => false
  | .complement s => s.isCaseClosed casing
  | .union a b | .both a b | .either a b => a.isCaseClosed casing && b.isCaseClosed casing
  | .caseless casing' _ => casing' = casing

/-- The set with all that differs from a member by case only. A part that needs
no change is left as it is. -/
def fold (casing : Casing) : CharSet → CharSet
  | .union a b => .union (a.fold casing) (b.fold casing)
  | s => if s.isCaseClosed casing then s else .caseless casing s

end CharSet

end MarkdownHighlight
