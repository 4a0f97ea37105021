import SqlBuilder.Decimal.Bounded
import SqlBuilder.Text.Split

/-!
# Messages with a place

A message may end with the place in a document that it speaks of, as `bad digit at line 3 column 7`
does. The place is kept as numbers beside the message, so it is written in one way however it was
spelled. Lines are counted from one: a message that speaks of line zero has no place.

* `Place` : a line and a column.
* `Located` : a message and its place, with `Located.ofText` and `Located.text`.
-/

namespace SqlBuilder.Text

set_option autoImplicit false

/-! ## Places -/

structure Place where
  line : Nat
  column : Nat
deriving DecidableEq

namespace Place

/-- Lines and columns are numbers of 64 bits. -/
def bound : Nat := 18446744073709551615

/-- What stands before a line. -/
def lineMark : String := " at line "

/-- What stands before a column. -/
def columnMark : String := " column "

/-- A place as it ends a message. -/
def text (place : Place) : String :=
  lineMark ++ toString place.line ++ columnMark ++ toString place.column

/-- Reads what stands after the mark of a line, to the end. -/
def read? (cs : List Char) : Option Place := do
  let line ← Decimal.readUnsigned bound (cs.takeWhile Char.isDigit)
  let rest ← after? columnMark.toList (cs.dropWhile Char.isDigit)
  let column ← Decimal.readUnsigned bound rest
  return ⟨line, column⟩

end Place

/-! ## Messages -/

/-- A message and the place that it speaks of. -/
structure Located where
  message : String
  place : Option Place
deriving DecidableEq

namespace Located

/-- Reads a message. Only its very end is a place: all that stands before the last mark of a line is
kept as it is, and so is a message whose end is no place. -/
def ofText (s : String) : Located :=
  match splitAtLast? Place.lineMark.toList s.toList with
  | none => ⟨s, none⟩
  | some (before, rest) =>
    match Place.read? rest with
    | none => ⟨s, none⟩
    | some place => ⟨String.ofList before, if place.line = 0 then none else some place⟩

def text (located : Located) : String :=
  match located.place with
  | none => located.message
  | some place => located.message ++ place.text

end Located

end SqlBuilder.Text
