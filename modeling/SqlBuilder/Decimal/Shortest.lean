/-!
# Shortest decimals

The fewest decimal digits that read back to a binary floating-point value, found by exact
arithmetic on natural numbers.

* `Width` : the two formats of a binary value, of 64 and of 32 bits.
* `Binary` : a value `significand * 2 ^ exponent`.
* `Binary.readsBack` : whether a decimal lies in the interval of reals that round to the value.
* `Binary.shortest` : for one digit, two digits and so on, the two decimals of that many digits next
  to the value; the first count with a decimal that reads back wins, and of two the nearer one.
-/

namespace SqlBuilder.Decimal

set_option autoImplicit false

/-! ## Binary values -/

/-- A binary floating-point format: after the sign bit come the exponent and the fraction. -/
structure Width where
  exponentBits : Nat
  fractionBits : Nat
  /-- The exponent of the least positive value. -/
  leastExponent : Int

def Width.double : Width := ⟨11, 52, -1074⟩

def Width.single : Width := ⟨8, 23, -149⟩

/-- A value `significand * 2 ^ exponent`. -/
structure Binary where
  significand : Nat
  exponent : Int
  /-- The next value below is half as far away as the next value above. -/
  tightBelow : Bool

/-- A power with a whole exponent, which counts as one when the exponent is negative. -/
def power (base : Nat) (exponent : Int) : Nat := Nat.pow base exponent.toNat

/-- The magnitude that the bits of a finite value stand for. -/
def Width.magnitude (w : Width) (bits : Nat) : Binary :=
  let one := power 2 w.fractionBits
  let fraction := bits % one
  match bits / one % power 2 w.exponentBits with
  | 0 => ⟨fraction, w.leastExponent, false⟩
  | above + 1 => ⟨one + fraction, w.leastExponent + above, fraction == 0 && above != 0⟩

def Width.isNegative (w : Width) (bits : Nat) : Bool :=
  bits / power 2 (w.exponentBits + w.fractionBits) % 2 == 1

/-! ## Decimals -/

/-- A decimal `coefficient * 10 ^ exponent`. -/
structure Digits where
  coefficient : Nat
  exponent : Int

/-- Which of two equally near decimals is taken. -/
inductive Tie where
  | toEven
  | up

/-- Compares `d` with `n * 2 ^ j`. -/
def Digits.compareBinary (d : Digits) (n : Nat) (j : Int) : Ordering :=
  compare (d.coefficient * power 10 d.exponent * power 2 (-j)) (n * power 2 j * power 10 (-d.exponent))

/-- Whether a decimal lies among the reals that round to the value. The two ends are half way to the
neighbours and belong to the interval when the significand is even. -/
def Binary.readsBack (x : Binary) (d : Digits) : Bool :=
  let low := d.compareBinary (4 * x.significand - if x.tightBelow then 1 else 2) (x.exponent - 2)
  let high := d.compareBinary (4 * x.significand + 2) (x.exponent - 2)
  let endsIn := x.significand % 2 == 0
  (low == .gt || (endsIn && low == .eq)) && (high == .lt || (endsIn && high == .eq))

/-! ## The search -/

/-- The least `k` with the value below `10 ^ k`. The first guess comes from the binary logarithm and
is never too high. -/
def Binary.scale (x : Binary) : Int :=
  let guess := (x.significand.log2 + x.exponent) * 30103 / 100000 + 1
  if (Digits.mk 1 guess).compareBinary x.significand x.exponent == .gt then guess else guess + 1

/-- The greatest multiple of `10 ^ e` that is not above the value, counted in that unit. -/
def Binary.floorOn (x : Binary) (e : Int) : Nat :=
  x.significand * power 2 x.exponent * power 10 (-e) / (power 2 (-x.exponent) * power 10 e)

/-- The decimal with unit `10 ^ e` that is chosen, if one of the two next to the value reads back. -/
def Binary.onGrid (x : Binary) (tie : Tie) (e : Int) : Option Digits :=
  let below : Digits := ⟨x.floorOn e, e⟩
  let above : Digits := ⟨x.floorOn e + 1, e⟩
  match x.readsBack below, x.readsBack above with
  | false, false => none
  | true, false => some below
  | false, true => some above
  | true, true =>
    match (Digits.mk (2 * below.coefficient + 1) e).compareBinary x.significand (x.exponent + 1), tie with
    | .gt, _ => some below
    | .lt, _ => some above
    | .eq, .up => some above
    | .eq, .toEven => some (if below.coefficient % 2 == 0 then below else above)

def Binary.exactDigits (x : Binary) : Digits :=
  ⟨x.significand * power 2 x.exponent * power 5 (-x.exponent), min x.exponent 0⟩

/-- Takes trailing zeros of the coefficient into the exponent, at most `count` of them. -/
def Digits.stripZeros (d : Digits) : Nat → Digits
  | 0 => d
  | count + 1 =>
    if d.coefficient != 0 && d.coefficient % 10 == 0 then
      Digits.stripZeros ⟨d.coefficient / 10, d.exponent + 1⟩ count
    else d

/-- The fewest digits that read back. Seventeen are enough for the widest layout. -/
def Binary.shortest (x : Binary) (tie : Tie) : Digits :=
  if x.significand = 0 then ⟨0, 0⟩
  else
    let found := (List.range 17).findSome? fun n => x.onGrid tie (x.scale - (n + 1 : Nat))
    (found.getD x.exactDigits).stripZeros 17

end SqlBuilder.Decimal
