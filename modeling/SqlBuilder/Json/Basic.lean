import SqlBuilder.KeyedList

/-!
# JSON documents

* `Number` : integers of 64 bits, signed or unsigned, and finite floats. They stay apart: `1` is not `1.0`.
* `Json` : documents. The members of an object keep the order in which their keys were first given.
* `Json.ofMembers` : an object from members; a repeated key replaces the earlier value in place.
* `Json.beq` : equality, in which the order of members does not count.
-/

namespace SqlBuilder

set_option autoImplicit false

/-! ## Numbers -/

inductive Number where
  | int (n : Int) (lower : -9223372036854775808 ≤ n) (upper : n < 18446744073709551616)
  | float (x : Float) (finite : x.isFinite = true)

namespace Number

/-- The integer, if it fits in 64 bits with or without a sign. -/
def ofInt? (n : Int) : Option Number :=
  if h : -9223372036854775808 ≤ n ∧ n < 18446744073709551616 then some (.int n h.1 h.2) else none

/-- The float, if it is finite. -/
def ofFloat? (x : Float) : Option Number :=
  if h : x.isFinite = true then some (.float x h) else none

/-- Integers compare by value, floats as IEEE numbers, and the two kinds are never equal. -/
def beq : Number → Number → Bool
  | .int n _ _, .int m _ _ => n == m
  | .float x _, .float y _ => x == y
  | _, _ => false

instance : BEq Number := ⟨beq⟩

end Number

/-! ## Documents -/

inductive Json where
  | null
  | bool (b : Bool)
  | number (n : Number)
  | string (s : String)
  | array (items : List Json)
  | object (members : List (String × Json))

namespace Json

instance : Inhabited Json := ⟨null⟩

/-- The integer as a document, if it fits in 64 bits with or without a sign. -/
def ofInt? (n : Int) : Option Json := (Number.ofInt? n).map number

def ofByte (b : UInt8) : Json :=
  number (.int b.toNat (by omega) (by have := b.toNat_lt; omega))

/-- The float as a document; what is not finite has no number and becomes `null`. -/
def ofFloat (x : Float) : Json :=
  match Number.ofFloat? x with
  | some n => number n
  | none => null

/-- An object; a repeated key replaces the value that was given first, in its place. -/
def ofMembers (members : List (String × Json)) : Json :=
  object (members.foldl (fun done member => upsert Prod.fst member done) [])

def isObject : Json → Bool
  | object _ => true
  | _ => false

/-- The value of the first member with a key. -/
def lookup (key : String) (members : List (String × Json)) : Option Json :=
  (members.find? fun member => member.1 = key).map Prod.snd

mutual

/-- Equality of documents. Objects are equal when they have the same keys with equal values. -/
def beq : Json → Json → Bool
  | null, null => true
  | bool a, bool b => a == b
  | number a, number b => a == b
  | string a, string b => a == b
  | array as, array bs => beqItems as bs
  | object as, object bs => as.length == bs.length && beqMembers as bs
  | _, _ => false

/-- Equality of the items of two arrays, one by one. -/
def beqItems : List Json → List Json → Bool
  | [], [] => true
  | a :: as, b :: bs => beq a b && beqItems as bs
  | _, _ => false

/-- Whether every member has an equal one under its key. -/
def beqMembers : List (String × Json) → List (String × Json) → Bool
  | [], _ => true
  | (key, a) :: as, bs =>
    (match lookup key bs with
      | some b => beq a b
      | none => false) && beqMembers as bs

end

instance : BEq Json := ⟨beq⟩

end Json

end SqlBuilder
