import SqlBuilder.Json.Printer
import SqlBuilder.Text.Located

/-!
# Data to be serialized

The data that a caller hands over to be turned into a document: integers of any size, floats of both
precisions, byte strings, maps with arbitrary keys, and data that refuse to be serialized.

* `Datum` : the data.
* `DatumFault` : why there is no document, with its message.
* `Datum.keyText` : the key of a map as a text.
* `Datum.toJson` : the document, or the first fault that is met in order.
-/

namespace SqlBuilder

set_option autoImplicit false

inductive Datum where
  | null
  | bool (b : Bool)
  | int (n : Int)
  | float (x : Float)
  | single (x : Float32)
  | text (s : String)
  | bytes (bytes : List UInt8)
  /-- An optional value that is there. -/
  | present (d : Datum)
  | list (items : List Datum)
  | map (entries : List (Datum × Datum))
  /-- Data whose own serialization fails with a message. -/
  | refusing (message : String)

/-- Why data have no document. -/
inductive DatumFault where
  | numberOutOfRange
  | keyNotText
  | keyNotFinite
  /-- The data refused, with a message that may name a place. -/
  | refused (message : Text.Located)
  | described (text : String)
deriving DecidableEq

def DatumFault.message : DatumFault → String
  | numberOutOfRange => "number out of range"
  | keyNotText => "key must be a string"
  | keyNotFinite => "float key must be finite (got NaN or +/-inf)"
  | refused message => message.text
  | described text => text

namespace Datum

instance : Inhabited Datum := ⟨null⟩

/-- The text of a map key. Scalars have one; an optional value has none, even when it is there. -/
def keyText : Datum → Except DatumFault String
  | text s => .ok s
  | bool b => .ok (if b then "true" else "false")
  | int n => .ok (toString n)
  | float x => if x.isFinite then .ok (Json.floatText x) else .error .keyNotFinite
  | single x => if x.isFinite then .ok (Json.singleText x) else .error .keyNotFinite
  | refusing message => .error (.refused (.ofText message))
  | null | present _ | bytes _ | list _ | map _ => .error .keyNotText

mutual

def toJson : Datum → Except DatumFault Json
  | null => .ok .null
  | bool b => .ok (.bool b)
  | int n =>
    match Json.ofInt? n with
    | some document => .ok document
    | none => .error .numberOutOfRange
  | float x => .ok (.ofFloat x)
  | single x => .ok (.ofFloat x.toFloat)
  | text s => .ok (.string s)
  | bytes bs => .ok (.array (bs.map Json.ofByte))
  | present d => toJson d
  | list items => do
    let documents ← toJsonItems items
    return .array documents
  | map entries => do
    let members ← toJsonMembers entries
    return .ofMembers members
  | refusing message => .error (.refused (.ofText message))

/-- The documents of the items of a list, in order. -/
def toJsonItems : List Datum → Except DatumFault (List Json)
  | [] => .ok []
  | item :: items => do
    let document ← toJson item
    let documents ← toJsonItems items
    return document :: documents

/-- The members of a map, each key before its value. -/
def toJsonMembers : List (Datum × Datum) → Except DatumFault (List (String × Json))
  | [] => .ok []
  | (key, value) :: entries => do
    let name ← keyText key
    let document ← toJson value
    let members ← toJsonMembers entries
    return (name, document) :: members

end

end Datum

end SqlBuilder
