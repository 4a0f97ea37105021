import SqlBuilder.Decimal.Shortest

/-!
# Decimal layouts

How the digits of a number are written down. A layout says between which exponents a number is
written positionally, and whether a positional whole number keeps its point.

* `Layout` : the decisions.
* `Layout.write` : the text of the bits of a finite value.
* `isNumeralChar` : the characters that any layout uses (`isNumeralChar_of_mem_write`).
-/

namespace SqlBuilder.Decimal

set_option autoImplicit false

structure Layout where
  /-- Which of two equally near digit strings is written. -/
  tie : Tie
  /-- The exponents of the leading digit that are written positionally; all of them if absent. -/
  positional : Option (Int × Int)
  /-- A positional whole number ends in a point and a zero. -/
  keepsPoint : Bool

/-- Whether a number whose leading digit has this exponent is written positionally. -/
def Layout.isPositional (layout : Layout) (leading : Int) : Bool :=
  match layout.positional with
  | none => true
  | some (least, greatest) => least ≤ leading && leading ≤ greatest

private def zeros (count : Nat) : String := String.ofList (List.replicate count '0')

/-- Digits with a point in their place, and zeros where the digits do not reach it. -/
def Layout.writePositional (layout : Layout) (digits : String) (exponent : Int) : String :=
  if 0 ≤ exponent then
    digits ++ zeros exponent.toNat ++ if layout.keepsPoint then ".0" else ""
  else
    let places := (-exponent).toNat
    let cs := digits.toList
    if places < cs.length then
      String.ofList (cs.take (cs.length - places)) ++ "." ++ String.ofList (cs.drop (cs.length - places))
    else
      "0." ++ zeros (places - cs.length) ++ digits

/-- One digit, the others after a point, and the exponent of the first with its sign. -/
def writeScientific (digits : String) (leading : Int) : String :=
  let rest := digits.toList.drop 1
  String.ofList (digits.toList.take 1) ++ (if rest.isEmpty then "" else "." ++ String.ofList rest)
    ++ (if 0 ≤ leading then "e+" else "e-") ++ toString leading.natAbs

def Layout.writeDigits (layout : Layout) (d : Digits) : String :=
  let digits := toString d.coefficient
  let leading : Int := digits.length - 1 + d.exponent
  if layout.isPositional leading then layout.writePositional digits d.exponent
  else writeScientific digits leading

/-- The text of the finite value with the given bits; a negative zero keeps its sign. -/
def Layout.write (layout : Layout) (width : Width) (bits : Nat) : String :=
  (if width.isNegative bits then "-" else "")
    ++ layout.writeDigits ((width.magnitude bits).shortest layout.tie)

/-! ## The characters of a number -/

/-- The characters that numbers are written with. -/
def isNumeralChar (c : Char) : Bool := c.isDigit || c == '-' || c == '+' || c == '.' || c == 'e'

theorem isNumeralChar_of_mem_digits {n : Nat} {c : Char} (h : c ∈ (toString n).toList) :
    isNumeralChar c = true := by
  have digit : c.isDigit = true := by
    rw [Nat.toString_eq_repr, Nat.repr_eq_ofList_toDigits, String.toList_ofList] at h
    exact Nat.isDigit_of_mem_toDigits (by decide) (by decide) h
  simp [isNumeralChar, digit]

private theorem isNumeralChar_of_mem_zeros {count : Nat} {c : Char} (h : c ∈ (zeros count).toList) :
    isNumeralChar c = true := by
  rw [zeros, String.toList_ofList] at h
  rw [List.eq_of_mem_replicate h]
  rfl

private theorem isNumeralChar_of_mem_mark {mark : String} {c : Char} (h : c ∈ mark.toList)
    (hmark : mark.toList.all isNumeralChar = true) : isNumeralChar c = true :=
  List.all_eq_true.1 hmark c h

theorem isNumeralChar_of_mem_writePositional (layout : Layout) {digits : String} {exponent : Int} {c : Char}
    (hdigits : ∀ d ∈ digits.toList, isNumeralChar d = true)
    (h : c ∈ (layout.writePositional digits exponent).toList) : isNumeralChar c = true := by
  unfold Layout.writePositional at h
  split at h
  · simp only [String.toList_append, List.mem_append] at h
    obtain (h | h) | h := h
    · exact hdigits c h
    · exact isNumeralChar_of_mem_zeros h
    · exact isNumeralChar_of_mem_mark h (by split <;> decide)
  · dsimp only at h
    split at h
    · simp only [String.toList_append, String.toList_ofList, List.mem_append] at h
      obtain (h | h) | h := h
      · exact hdigits c (List.mem_of_mem_take h)
      · exact isNumeralChar_of_mem_mark h (by decide)
      · exact hdigits c (List.mem_of_mem_drop h)
    · simp only [String.toList_append, List.mem_append] at h
      obtain (h | h) | h := h
      · exact isNumeralChar_of_mem_mark h (by decide)
      · exact isNumeralChar_of_mem_zeros h
      · exact hdigits c h

theorem isNumeralChar_of_mem_writeScientific {digits : String} {leading : Int} {c : Char}
    (hdigits : ∀ d ∈ digits.toList, isNumeralChar d = true)
    (h : c ∈ (writeScientific digits leading).toList) : isNumeralChar c = true := by
  simp only [writeScientific, String.toList_append, List.mem_append] at h
  obtain ((h | h) | h) | h := h
  · exact hdigits c (List.mem_of_mem_take (by simpa using h))
  · split at h
    · exact isNumeralChar_of_mem_mark h (by decide)
    · rw [String.toList_append, List.mem_append] at h
      obtain h | h := h
      · exact isNumeralChar_of_mem_mark h (by decide)
      · exact hdigits c (List.mem_of_mem_tail (by simpa using h))
  · exact isNumeralChar_of_mem_mark h (by split <;> decide)
  · exact isNumeralChar_of_mem_digits h

/-- A written number has digits, signs, a point and the mark of an exponent, and nothing else. -/
theorem isNumeralChar_of_mem_write (layout : Layout) (width : Width) (bits : Nat) {c : Char}
    (h : c ∈ (layout.write width bits).toList) : isNumeralChar c = true := by
  unfold Layout.write Layout.writeDigits at h
  rw [String.toList_append, List.mem_append] at h
  obtain h | h := h
  · exact isNumeralChar_of_mem_mark h (by split <;> decide)
  · dsimp only at h
    split at h
    · exact isNumeralChar_of_mem_writePositional layout (fun _ => isNumeralChar_of_mem_digits) h
    · exact isNumeralChar_of_mem_writeScientific (fun _ => isNumeralChar_of_mem_digits) h

end SqlBuilder.Decimal
