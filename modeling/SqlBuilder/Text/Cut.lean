/-!
# Cutting a text at a number of bytes

A text is cut at a whole character: from the limit the cut moves back, byte by byte, to the
nearest place where a character starts or the text ends.

* `isBoundary` : whether a byte offset is such a place.
* `floorBoundary` : the last such place that is not past a limit.
* `abridge` : a text that is too long, cut and marked with three dots.
-/

namespace SqlBuilder.Text

set_option autoImplicit false

/-- The number of bytes that characters take in UTF-8. -/
def byteLength : List Char → Nat
  | [] => 0
  | c :: cs => c.utf8Size + byteLength cs

/-- Whether a character starts, or the text ends, at a byte offset. -/
def isBoundary : List Char → Nat → Bool
  | _, 0 => true
  | [], _ + 1 => false
  | c :: cs, offset@(_ + 1) => c.utf8Size ≤ offset && isBoundary cs (offset - c.utf8Size)

/-- The last boundary that is not past a byte offset. -/
def floorBoundary (cs : List Char) : Nat → Nat
  | 0 => 0
  | offset + 1 => if isBoundary cs (offset + 1) then offset + 1 else floorBoundary cs offset

/-- The characters before a byte offset that is a boundary. -/
def takeBytes : List Char → Nat → List Char
  | [], _ => []
  | c :: cs, count => if c.utf8Size ≤ count then c :: takeBytes cs (count - c.utf8Size) else []

/-- A text of more bytes than the limit is cut at the last boundary within it and gets three dots. -/
def abridge (limit : Option Nat) (s : String) : String :=
  match limit with
  | none => s
  | some count =>
    if byteLength s.toList ≤ count then s
    else String.ofList (takeBytes s.toList (floorBoundary s.toList count)) ++ "..."

end SqlBuilder.Text
