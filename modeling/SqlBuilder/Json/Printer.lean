import SqlBuilder.Json.Basic
import SqlBuilder.Decimal.Layout

/-!
# JSON text

The compact text of a document: no spaces, members in their order.

* `Json.escapeChar` : a string escapes its quote, the backslash and the control characters below U+0020.
* `Json.numberLayout` : floats are positional from `0.00001` to below `10 ^ 16`, and a whole one keeps
  its point.
* `Json.compact` : the text of a document.
-/

namespace SqlBuilder

set_option autoImplicit false

namespace Json

/-! ## Strings -/

private def hexDigit (n : Nat) : Char :=
  if n < 10 then Char.ofNat (n + '0'.toNat) else Char.ofNat (n - 10 + 'a'.toNat)

/-- How one character stands in a string. -/
def escapeChar (c : Char) : List Char :=
  match c with
  | '"' => ['\\', '"']
  | '\\' => ['\\', '\\']
  | '\x08' => ['\\', 'b']
  | '\t' => ['\\', 't']
  | '\n' => ['\\', 'n']
  | '\x0c' => ['\\', 'f']
  | '\r' => ['\\', 'r']
  | _ =>
    if c.toNat < 0x20 then ['\\', 'u', '0', '0', hexDigit (c.toNat / 16), hexDigit (c.toNat % 16)]
    else [c]

def stringText (s : String) : String :=
  "\"" ++ String.ofList (s.toList.flatMap escapeChar) ++ "\""

/-! ## Numbers -/

/-- Floats: of two equally near digit strings the even one, positional when the first digit counts
for at least `10 ^ -5` and at most `10 ^ 15`, a whole number with a point. -/
def numberLayout : Decimal.Layout := ⟨.toEven, some (-5, 15), true⟩

/-- Floats of single precision: positional from `10 ^ -6` to `10 ^ 12`. -/
def singleLayout : Decimal.Layout := ⟨.toEven, some (-6, 12), true⟩

def floatText (x : Float) : String := numberLayout.write .double x.toBits.toNat

def singleText (x : Float32) : String := singleLayout.write .single x.toBits.toNat

end Json

def Number.text : Number → String
  | .int n _ _ => toString n
  | .float x _ => Json.floatText x

namespace Json

/-! ## Documents -/

mutual

def compact : Json → String
  | null => "null"
  | bool b => if b then "true" else "false"
  | number n => n.text
  | string s => stringText s
  | array items => "[" ++ ",".intercalate (compactItems items) ++ "]"
  | object members => "\x7b" ++ ",".intercalate (compactMembers members) ++ "\x7d"

def compactItems : List Json → List String
  | [] => []
  | item :: items => compact item :: compactItems items

def compactMembers : List (String × Json) → List String
  | [] => []
  | (key, value) :: members => (stringText key ++ ":" ++ compact value) :: compactMembers members

end

end Json

end SqlBuilder
