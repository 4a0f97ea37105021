import SqlBuilder.Json.Printer
import SqlBuilder.Text.Quoted

/-!
# Values

What stands in a cell of a row, on the right of an assignment or in a predicate.

* `Value.literal` : the value as it is written in rows and assignments, with quotes where they belong.
* `Value.rawText` : the value as it is written in predicates and column lists, without quotes.
* `Value.ofJson`, `Value.toJson` : values from documents and back.
-/

namespace SqlBuilder

set_option autoImplicit false

inductive Value where
  | null
  | bool (b : Bool)
  | int (n : Int64)
  | float (x : Float)
  | text (s : String)
  /-- Structured data, written as JSON. -/
  | json (document : Json)
  /-- SQL that is written as it is, such as `NOW()`. -/
  | raw (sql : String)

namespace Value

instance : Inhabited Value := ⟨null⟩

/-- Values are equal when they are of one kind and equal there; floats compare as IEEE numbers. -/
def beq : Value → Value → Bool
  | null, null => true
  | bool a, bool b => a == b
  | int n, int m => n == m
  | float x, float y => x == y
  | text s, text t => s == t
  | json a, json b => a == b
  | raw s, raw t => s == t
  | _, _ => false

instance : BEq Value := ⟨beq⟩

def isNull : Value → Bool
  | null => true
  | _ => false

/-! ## Text -/

/-- Floats: of two equally near digit strings the upper one, always positional, no point in a whole number. -/
def floatLayout : Decimal.Layout := ⟨.up, none, false⟩

/-- The text of a float. What is not finite has no literal and becomes `null`. -/
def floatText (x : Float) : String :=
  if x.isFinite then floatLayout.write .double x.toBits.toNat else "null"

/-- The value as an SQL literal: text and documents between quotes, the rest bare. -/
def literal : Value → String
  | null => "null"
  | bool b => if b then "true" else "false"
  | int n => toString n.toInt
  | float x => floatText x
  | text s => Text.quote (Text.textBody s)
  | json document => Text.quote (Text.jsonBody document.compact)
  | raw sql => sql

/-- The value without quotes and escapes. -/
def rawText : Value → String
  | text s => s
  | raw sql => sql
  | json document => document.compact
  | value => value.literal

/-! ## Documents -/

def toJson : Value → Json
  | null => .null
  | bool b => .bool b
  | int n => .number (.int n.toInt (by have := n.le_toInt; omega) (by have := n.toInt_lt; omega))
  | float x => .ofFloat x
  | text s => .string s
  | json document => document
  | raw sql => .string sql

/-- The value of a number. An integer past the signed range is kept as its decimal text. -/
def ofNumber : Number → Value
  | .int n _ _ => if n < 9223372036854775808 then int (Int64.ofInt n) else raw (toString n)
  | .float x _ => float x

def ofJson : Json → Value
  | .null => null
  | .bool b => bool b
  | .number n => ofNumber n
  | .string s => text s
  | document => json document

/-- A list of values is one array. -/
def ofList (items : List Value) : Value := json (.array (items.map toJson))

/-- An absent value is `null`. -/
def ofOption : Option Value → Value
  | none => null
  | some value => value

end Value

end SqlBuilder
