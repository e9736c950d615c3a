/-!
Lengths of time in whole nanoseconds, up to the seconds a 64-bit count can
hold, and their reading as floating-point seconds. A float is turned back into
the nearest nanosecond, a tie going to the even one.
-/

namespace MarkdownHighlight

structure Duration where
  nanoseconds : Nat
  deriving DecidableEq, Repr

namespace Duration

def nanosecondsPerSecond : Nat := 1000000000

/-- The seconds no duration reaches. -/
def secondsLimit : Nat := Nat.pow 2 64

def zero : Duration := ⟨0⟩

/-- Nanoseconds of a second and more carry into the seconds. -/
def ofParts (seconds nanoseconds : Nat) : Duration :=
  ⟨seconds * nanosecondsPerSecond + nanoseconds⟩

def ofMilliseconds (count : Nat) : Duration := ⟨count * 1000000⟩

def seconds (d : Duration) : Nat := d.nanoseconds / nanosecondsPerSecond

/-- Nanoseconds beyond the whole seconds. -/
def subsecond (d : Duration) : Nat := d.nanoseconds % nanosecondsPerSecond

/-- The sum, unless it is too long. -/
def add? (a b : Duration) : Option Duration :=
  let sum : Duration := ⟨a.nanoseconds + b.nanoseconds⟩
  if sum.seconds < secondsLimit then some sum else none

def toSeconds (d : Duration) : Float :=
  d.seconds.toUInt64.toFloat + d.subsecond.toUInt64.toFloat / 1e9

/-- `numerator / denominator` rounded to the nearest whole number, ties to even. -/
def roundDiv (numerator denominator : Nat) : Nat :=
  let quotient := numerator / denominator
  let twice := 2 * (numerator % denominator)
  if twice < denominator then quotient
  else if denominator < twice then quotient + 1
  else quotient + quotient % 2

/-- A non-negative finite float as a whole number and the power of two that
divides or multiplies it. -/
def decodeFloat (bits : UInt64) : Nat × Int :=
  let fraction : Nat := bits.toNat % Nat.pow 2 52
  let exponent : Nat := bits.toNat / Nat.pow 2 52 % Nat.pow 2 11
  if exponent = 0 then (fraction, -1074)
  else (fraction + Nat.pow 2 52, (exponent : Int) - 1075)

/-- The nearest duration, unless the float is negative, too large or no number. -/
def ofSeconds? (seconds : Float) : Option Duration :=
  if 0.0 ≤ seconds && seconds < 18446744073709551616.0 then
    let (digits, exponent) := decodeFloat seconds.toBits
    if exponent < 0 then
      some ⟨roundDiv (digits * nanosecondsPerSecond) (Nat.pow 2 exponent.natAbs)⟩
    else some ⟨digits * Nat.pow 2 exponent.natAbs * nanosecondsPerSecond⟩
  else none

end Duration

end MarkdownHighlight
