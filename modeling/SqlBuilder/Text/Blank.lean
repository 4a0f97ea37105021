/-!
# Blank characters

The characters with the Unicode property White_Space, and trimming by them.

* `isBlank` : membership in the property's table.
* `trimBlanks`, `trim` : a text without its blank characters at both ends.
-/

namespace SqlBuilder.Text

set_option autoImplicit false

/-- The code points of the property, as ranges in ascending order. -/
def blankRanges : List (Nat × Nat) :=
  [(0x0009, 0x000D), (0x0020, 0x0020), (0x0085, 0x0085), (0x00A0, 0x00A0), (0x1680, 0x1680),
   (0x2000, 0x200A), (0x2028, 0x2029), (0x202F, 0x202F), (0x205F, 0x205F), (0x3000, 0x3000)]

def isBlank (c : Char) : Bool :=
  blankRanges.any fun (first, last) => first ≤ c.toNat && c.toNat ≤ last

def trimBlanks (cs : List Char) : List Char :=
  ((cs.dropWhile isBlank).reverse.dropWhile isBlank).reverse

def trim (s : String) : String := String.ofList (trimBlanks s.toList)

def allBlank (s : String) : Bool := s.toList.all isBlank

end SqlBuilder.Text
