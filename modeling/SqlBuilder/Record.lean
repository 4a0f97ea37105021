import SqlBuilder.KeyedList
import SqlBuilder.Value

/-!
# Records

A record holds one value per column, in the order in which the columns were first given. It also
serves as a list of predicates: a fragment without a column stands under an ordinal key, which is a
key of decimal digits.

* `Record.set`, `Record.get?`, `Record.columns` : storing and looking up.
* `Record.addFragment` : a fragment under the next ordinal key.
* `Record.ofEntries`, `Record.ofMembers` : records from lists and from the members of a JSON object.
-/

namespace SqlBuilder

set_option autoImplicit false

abbrev Record := KeyedList (Prod.fst : String × Value → String)

namespace Record

def empty : Record := {}

def entries (r : Record) : List (String × Value) := r.toList

def columns (r : Record) : List String := r.keys

/-- Stores a value; a column that is there keeps its place. -/
def set (r : Record) (column : String) (value : Value) : Record := r.put (column, value)

def get? (r : Record) (column : String) : Option Value := (KeyedList.get? r column).map Prod.snd

def contains (r : Record) (column : String) : Bool := (r.get? column).isSome

def isOrdinalKey (key : String) : Bool :=
  !key.toList.isEmpty && key.toList.all Char.isDigit

/-- The number of ordinal keys, as text. -/
def nextOrdinal (r : Record) : String := toString (r.columns.countP isOrdinalKey)

def addFragment (r : Record) (fragment : String) : Record := r.set r.nextOrdinal (.raw fragment)

def ofEntries (entries : List (String × Value)) : Record := .ofList entries

def ofMembers (members : List (String × Json)) : Record :=
  ofEntries (members.map fun (column, document) => (column, .ofJson document))

end Record

end SqlBuilder
