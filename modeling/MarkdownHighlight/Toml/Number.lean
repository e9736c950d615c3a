import MarkdownHighlight.Toml.Quoted

/-!
Numbers. Digits may be grouped by single underscores. Whole numbers have 64
bits with a sign. Of a float only its validity is kept: a positive one must not
round to infinity, and nothing here looks at its value.
-/

namespace MarkdownHighlight.Toml

open Reader
open Text (isHexDigit numberOf)

/-- A digit, or an underscore before a digit. -/
def groupedDigit (test : Char → Bool) : Reader Char :=
  satisfy test <|> (do char '_'; satisfy test)

/-- Digits that may start with zeros. -/
def groupedDigits (test : Char → Bool) : Reader Text := do
  let first ← satisfy test
  return first :: (← many (groupedDigit test))

/-- Decimal digits without leading zeros. -/
def wholeDigits : Reader Text := do
  let first ← satisfy Char.isDigit
  if first = '0' then return [first] else return first :: (← many (groupedDigit Char.isDigit))

/-- A sign, if there is one: whether it is a minus. -/
def sign : Reader Bool := (do char '-'; return true) <|> (do char '+'; return false) <|> pure false

def fitsInt64 (n : Int) : Bool := -Int.pow 2 63 ≤ n && n < Int.pow 2 63

def bounded (n : Int) : Reader Int := if fitsInt64 n then return n else failure

def decimalInteger : Reader Int := do
  let negative ← sign
  let value := numberOf 10 (← wholeDigits)
  bounded (if negative then -value else value)

/-- A number in another base, which has a mark and no sign. -/
def basedInteger (mark : Char) (base : Nat) (test : Char → Bool) : Reader Int := do
  literal ['0', mark]
  bounded (numberOf base (← groupedDigits test))

def integer : Reader Int :=
  basedInteger 'x' 16 isHexDigit
    <|> basedInteger 'o' 8 (fun c => '0' ≤ c && c ≤ '7')
    <|> basedInteger 'b' 2 (fun c => c == '0' || c == '1')
    <|> decimalInteger

/-- The exponent of a float. -/
def exponent : Reader Int := do
  let _ ← satisfy fun c => c == 'e' || c == 'E'
  let negative ← sign
  let value := numberOf 10 (← groupedDigits Char.isDigit)
  return if negative then -value else value

/-- Whether `digits * 10 ^ power` rounds to infinity as a 64-bit float. Sizes
far from the limit are told apart by their number of digits alone. -/
def overflows (digits : Nat) (power : Int) : Bool :=
  let size : Int := (Nat.toDigits 10 digits).length + power
  if digits = 0 || size < 300 then false
  else if 320 < size then true
  else
    let bound := Nat.pow 2 1024 - Nat.pow 2 970
    let scale := Nat.pow 10 power.natAbs
    if 0 ≤ power then bound ≤ digits * scale else bound * scale ≤ digits

def specialFloat : Reader Unit := do
  let _ ← sign
  literal "inf".toList <|> literal "nan".toList

def decimalFloat : Reader Unit := do
  let negative ← sign
  let whole ← wholeDigits
  let fraction? ← optional (do char '.'; groupedDigits Char.isDigit)
  let exponent? ← optional exponent
  if fraction?.isNone && exponent?.isNone then failure
  let fraction := fraction?.getD []
  let digits := numberOf 10 (whole ++ fraction)
  if !negative && overflows digits (exponent?.getD 0 - fraction.length) then failure

def float : Reader Unit := decimalFloat <|> specialFloat

end MarkdownHighlight.Toml
