import MarkdownHighlight.Unicode.Age
import MarkdownHighlight.Unicode.Segmentation

/-!
Sets of characters by the name of a property: a property alone, a general
category or a script, or a property and its value with a sign between them.
-/

namespace MarkdownHighlight.Unicode

/-- A property that a character has or has not, a general category or a script;
the first that has the name. -/
def named? (name : Text) : Option CharSet :=
  let name := looseName name
  find? binaryProperties name <|> find? categories name <|> (Script.find? name).map (·.ownSet)

/-- The characters for which a property has a value. -/
def valued? (property value : Text) : Option CharSet :=
  let value := looseName value
  match looseName property with
  | "gc" | "generalcategory" => find? categories value
  | "sc" | "script" => (Script.find? value).map (·.ownSet)
  | "scx" | "scriptextensions" => (Script.find? value).map (·.extendedSet)
  | "age" => age? value
  | "gcb" | "graphemeclusterbreak" => find? clusterClasses value
  | "wb" | "wordbreak" => find? wordClasses value
  | "sb" | "sentencebreak" => find? sentenceClasses value
  | _ => none

/-- What stands before and after the first place of a sign. -/
def splitAt? (sign : Text) : Text → Option (Text × Text)
  | [] => none
  | c :: rest =>
      if sign.isPrefixOf (c :: rest) then some ([], (c :: rest).drop sign.length)
      else (splitAt? sign rest).map fun (before, after) => (c :: before, after)

/-- A property as it is written. The signs are tried in a fixed order, whatever
stands first, and all of them mean the same. -/
def property? (written : Text) : Option CharSet :=
  match splitAt? ['!', '='] written <|> splitAt? [':'] written <|> splitAt? ['='] written with
  | some (property, value) => valued? property value
  | none => named? written

end MarkdownHighlight.Unicode
