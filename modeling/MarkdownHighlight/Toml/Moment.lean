import MarkdownHighlight.Toml.Quoted

/-!
Dates and times, with or without an offset. Only their validity is kept.
-/

namespace MarkdownHighlight.Toml

open Reader
open Text (numberOf)

/-- A number of exactly so many digits within bounds. -/
def numberIn (digits low high : Nat) : Reader Nat := do
  let value := numberOf 10 (← exactly digits Char.isDigit)
  if low ≤ value ∧ value ≤ high then return value else failure

def isLeapYear (year : Nat) : Bool := year % 4 == 0 && (year % 100 != 0 || year % 400 == 0)

def daysInMonth (year month : Nat) : Nat :=
  match month with
  | 2 => if isLeapYear year then 29 else 28
  | 4 | 6 | 9 | 11 => 30
  | _ => 31

def date : Reader Unit := do
  let year ← numberIn 4 0 9999
  char '-'
  let month ← numberIn 2 1 12
  char '-'
  let _ ← numberIn 2 1 (daysInMonth year month)

/-- Hours, minutes and seconds, a leap second included, and a fraction. -/
def time : Reader Unit := do
  let _ ← numberIn 2 0 23
  char ':'
  let _ ← numberIn 2 0 59
  char ':'
  let _ ← numberIn 2 0 60
  let _ ← optional (do char '.'; run1 Char.isDigit)

def offset : Reader Unit :=
  (do let _ ← satisfy fun c => c == 'Z' || c == 'z')
  <|> (do
    let _ ← satisfy fun c => c == '+' || c == '-'
    let _ ← numberIn 2 0 23
    char ':'
    let _ ← numberIn 2 0 59)

def moment : Reader Unit :=
  (do
    date
    let _ ← optional (do
      let _ ← satisfy fun c => c == 'T' || c == 't' || c == ' '
      time
      let _ ← optional offset))
  <|> time

end MarkdownHighlight.Toml
