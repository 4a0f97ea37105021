/-!
# Durations

Spans of time in whole nanoseconds, and their text: the largest unit of which there is at least one,
with all digits of the fraction.
-/

namespace SqlBuilder

set_option autoImplicit false

structure Duration where
  nanos : Nat
deriving DecidableEq

namespace Duration

def ofMillis (count : Nat) : Duration := ⟨count * 1000000⟩

/-- A unit of time: its sign, its nanoseconds, and the number of their zeros. -/
structure Scale where
  sign : String
  nanos : Nat
  places : Nat

/-- The unit in which a span is written. -/
def scale (d : Duration) : Scale :=
  if 1000000000 ≤ d.nanos then ⟨"s", 1000000000, 9⟩
  else if 1000000 ≤ d.nanos then ⟨"ms", 1000000, 6⟩
  else if 1000 ≤ d.nanos then ⟨"µs", 1000, 3⟩
  else ⟨"ns", 1, 0⟩

/-- A fraction in decimal places, without the zeros at its end. -/
def fractionDigits (places fraction : Nat) : List Char :=
  let digits := Nat.toDigits 10 fraction
  let padded := List.replicate (places - digits.length) '0' ++ digits
  (padded.reverse.dropWhile (· == '0')).reverse

def text (d : Duration) : String :=
  let unit := d.scale
  let fraction := fractionDigits unit.places (d.nanos % unit.nanos)
  toString (d.nanos / unit.nanos)
    ++ (if fraction.isEmpty then "" else "." ++ String.ofList fraction) ++ unit.sign

end Duration

end SqlBuilder
