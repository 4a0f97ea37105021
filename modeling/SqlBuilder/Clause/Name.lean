import SqlBuilder.Clause.Basic

/-!
# Names of clauses

The words by which clauses are declared: the verbs, and the kinds of clause that take a payload. Upper
and lower case ASCII letters are alike.
-/

namespace SqlBuilder

set_option autoImplicit false

/-- What a word names: a kind of statement, or a kind of clause. -/
inductive Clause.Name where
  | verb (verb : Verb)
  | kind (kind : Clause.Kind)
deriving DecidableEq

namespace Clause.Name

/-- The word with its ASCII letters in lower case. -/
def lowerCase (word : String) : String := String.ofList (word.toList.map Char.toLower)

def verb? (word : String) : Option Verb := Verb.ofWord? (lowerCase word)

/-- The kinds of clause that have a word of their own. -/
def namedKinds : List Clause.Kind := [.table, .params, .filter, .limit, .order]

def kind? (word : String) : Option Clause.Kind := namedKinds.find? fun k => k.word = lowerCase word

def ofWord? (word : String) : Option Clause.Name :=
  match verb? word with
  | some v => some (verb v)
  | none => (kind? word).map kind

end Clause.Name

end SqlBuilder
