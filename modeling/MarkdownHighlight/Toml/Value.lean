import MarkdownHighlight.Toml.Item
import MarkdownHighlight.Toml.Moment
import MarkdownHighlight.Toml.Number

/-!
Keys and values. Arrays and inline tables may be nested to a fixed depth.
-/

namespace MarkdownHighlight.Toml

open Reader

/-- Neither values nor dotted keys go this deep. -/
def depthLimit : Nat := 80

def isBareKeyChar (c : Char) : Bool := c.isAlphanum || c == '-' || c == '_'

def simpleKey : Reader Text := basicString <|> literalString <|> run1 isBareKeyChar

/-- A dotted key: the keys on the way, and the last one. -/
def dottedKey : Reader (List Text × Text) := do
  let keys ← separated (char '.') (do
    blanks
    let key ← simpleKey
    blanks
    return key)
  match keys.reverse with
  | [] => failure
  | last :: path => if keys.length < depthLimit then return (path.reverse, last) else failure

def boolean : Reader Bool :=
  (do literal "true".toList; return true) <|> (do literal "false".toList; return false)

def scalar : Reader Item :=
  (.string <$> string) <|> (do moment; return .moment) <|> (do float; return .float)
    <|> (.integer <$> integer) <|> (.boolean <$> boolean)

def array (item : Reader Item) : Reader Item := do
  char '['
  let padded : Reader Item := do
    filler
    let value ← item
    filler
    return value
  let items? ← optional (do
    let items ← separated (char ',') padded
    let _ ← optional (char ',')
    return items)
  filler
  char ']'
  return .array (items?.getD [])

def inlineTable (item : Reader Item) : Reader Item := do
  char '{'
  let pair : Reader ((List Text × Text) × Item) := do
    let key ← dottedKey
    char '='
    blanks
    let value ← item
    blanks
    return (key, value)
  let pairs? ← optional (separated (char ',') pair)
  blanks
  char '}'
  let entries? : Option Entries := (pairs?.getD []).foldlM
    (fun entries ((path, key), value) => Entries.assign? path key value entries) []
  match entries? with
  | none => failure
  | some entries => return .inlineTable entries

/-- A value with at most `depth` arrays and inline tables around each other. -/
def value : Nat → Reader Item
  | 0 => scalar
  | depth + 1 => array (value depth) <|> inlineTable (value depth) <|> scalar

end MarkdownHighlight.Toml
