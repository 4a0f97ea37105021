/-!
# Verbs

The five kinds of statement, the keyword each starts with, and the word a caller names it by.
-/

namespace SqlBuilder

set_option autoImplicit false

inductive Verb where
  | select
  | update
  | insert
  | delete
  | drop
deriving DecidableEq

namespace Verb

def keyword : Verb → String
  | select => "SELECT"
  | update => "UPDATE"
  | insert => "INSERT INTO"
  | delete => "DELETE FROM"
  | drop => "DROP TABLE"

def word : Verb → String
  | select => "select"
  | update => "update"
  | insert => "insert"
  | delete => "delete"
  | drop => "drop"

/-- Whether running the statement yields rows and not a count. -/
def isRead : Verb → Bool
  | select => true
  | _ => false

def all : List Verb := [select, update, insert, delete, drop]

/-- The verb with a word, written in lower case. -/
def ofWord? (word : String) : Option Verb := all.find? fun verb => verb.word = word

end Verb

end SqlBuilder
