/-!
# Reading bounded numbers

Whole numbers in decimal, up to a bound: at least one ASCII digit, and before it a plus sign where one
is allowed. Leading zeros are allowed. Reading stops with no number as soon as the bound is passed.

* `readUnsigned` : the number of a run of digits.
* `readBounded` : the number of a text, which may have a plus sign.
-/

namespace SqlBuilder.Decimal

set_option autoImplicit false

def digitValue? (c : Char) : Option Nat := if c.isDigit then some (c.toNat - '0'.toNat) else none

/-- Reads digits after a number that has been read already. -/
def readDigits (bound : Nat) : Nat → List Char → Option Nat
  | value, [] => some value
  | value, c :: cs =>
    match digitValue? c with
    | none => none
    | some digit =>
      if value * 10 + digit ≤ bound then readDigits bound (value * 10 + digit) cs else none

/-- Reads at least one digit and nothing else. -/
def readUnsigned (bound : Nat) : List Char → Option Nat
  | [] => none
  | digits@(_ :: _) => readDigits bound 0 digits

/-- A text without its leading plus sign. -/
def dropPlus : List Char → List Char
  | '+' :: cs => cs
  | cs => cs

/-- Reads a number that is at most the bound. -/
def readBounded (bound : Nat) (s : String) : Option Nat :=
  readUnsigned bound (dropPlus s.toList)

end SqlBuilder.Decimal
