import MarkdownHighlight.Regex.CharSet

/-!
Names of character properties and of their values. Names are compared loosely:
case, blanks, underscores, hyphens and everything beyond ASCII do not count, nor
does a leading `is`.
-/

namespace MarkdownHighlight.Unicode

def withoutIs : Text → Text
  | i :: s :: rest => if i.toLower = 'i' ∧ s.toLower = 's' then rest else i :: s :: rest
  | name => name

def isNameChar (c : Char) : Bool := c.toNat < 0x80 && c != ' ' && c != '_' && c != '-'

/-- The form in which names are compared. `isc` is a name of its own and not
one for `c`. -/
def looseName (name : Text) : String :=
  let kept := ((withoutIs name).filter isNameChar).map Char.toLower
  if kept = ['c'] ∧ withoutIs name ≠ name then "isc" else String.ofList kept

/-- A set of characters with all its names, each in the form in which names
are compared. -/
structure NamedSet where
  names : List String
  set : CharSet

def find? (sets : List NamedSet) (name : String) : Option CharSet :=
  (sets.find? (·.names.contains name)).map (·.set)

end MarkdownHighlight.Unicode
