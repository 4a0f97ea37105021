import SqlBuilder.Json.Datum
import SqlBuilder.Record

/-!
# Payloads

What a clause carries: a text, a list of values, one record, or a list of records.

* `Payload.ofJson` : the payload of a document, by its shape.
* `Payload.singleText?` : a payload as one text, if it is a single value.
* `Payload.verbatim` : the text of a payload where the kind of statement does not matter.
-/

namespace SqlBuilder

set_option autoImplicit false

inductive Payload where
  | text (sql : String)
  | list (items : List Value)
  | map (record : Record)
  | rows (records : List Record)
deriving BEq

inductive Shape where
  | text
  | list
  | map
  | rows
deriving DecidableEq

def Shape.name : Shape → String
  | text => "text"
  | list => "list"
  | map => "map"
  | rows => "rows"

namespace Payload

def shape : Payload → Shape
  | text _ => .text
  | list _ => .list
  | map _ => .map
  | rows _ => .rows

/-! ## Shape of a document -/

/-- The records of an array that holds nothing but objects. -/
def recordsOf? : List Json → Option (List Record)
  | [] => some []
  | .object members :: items => (recordsOf? items).map (Record.ofMembers members :: ·)
  | _ :: _ => none

/-- The payload of an array: rows if there are items and all are objects, otherwise a list. -/
def ofItems (items : List Json) : Payload :=
  match items, recordsOf? items with
  | _ :: _, some records => rows records
  | _, _ => list (items.map Value.ofJson)

/-- The payload of a document. `null` is the empty text, any other scalar but a string its JSON text. -/
def ofJson : Json → Payload
  | .string s => text s
  | .null => text ""
  | .object members => map (.ofMembers members)
  | .array items => ofItems items
  | scalar => text scalar.compact

def ofDatum (d : Datum) : Except DatumFault Payload := d.toJson.map ofJson

def ofTexts (texts : List String) : Payload := list (texts.map Value.text)

/-! ## Text -/

/-- The payload as one text: a text itself, or the only value of a list unless it is structured. -/
def singleText? : Payload → Option String
  | text sql => some sql
  | list [.json _] => none
  | list [value] => some value.rawText
  | _ => none

/-- Values without quotes, separated by commas. -/
def rawList (items : List Value) : String := ",".intercalate (items.map Value.rawText)

/-- The assignments of a record, with values as `write` writes them, separated by commas. -/
def assignments (write : Value → String) (r : Record) : String :=
  ",".intercalate (r.entries.map fun (column, value) => column ++ " = " ++ write value)

/-- The payload as it is written where the kind of statement does not matter. -/
def verbatim : Payload → String
  | text sql => sql
  | list items => rawList items
  | map record => assignments Value.rawText record
  | rows records => ",".intercalate (records.map (assignments Value.rawText))

end Payload

end SqlBuilder
