import SqlBuilder.Text.Blank

/-!
# Assembling fragments

A statement is put together from fragments, from left to right. A fragment is set off from the text
before it by one space, or glued to it; a padded fragment also owes a space to whatever follows.
Empty fragments leave no trace, and no space is put next to a space.

* `Fragment`, `Spacing` : a piece of text and how it meets its neighbours.
* `Assembly` : the text so far, and whether it owes a space.
* `assemble` : the text of a list of fragments, without blank characters at its ends.
-/

namespace SqlBuilder.Sql

set_option autoImplicit false

/-- How a fragment meets its neighbours. -/
inductive Spacing where
  /-- Set off from the text before it. -/
  | spaced
  /-- Set off from the text before it and from the text after it. -/
  | padded
  /-- Glued to the text before it, unless that owes a space. -/
  | tight
deriving DecidableEq

structure Fragment where
  text : String
  spacing : Spacing := .spaced
deriving DecidableEq

def startsWithSpace (s : String) : Bool := s.toList.head? == some ' '

def endsWithSpace (s : String) : Bool := s.toList.getLast? == some ' '

structure Assembly where
  text : String := ""
  /-- The last fragment was padded and still owes the space after it. -/
  owesSpace : Bool := false
deriving DecidableEq

namespace Assembly

/-- Whether the text so far is to be set off from a fragment. -/
def wantsSpace (a : Assembly) (f : Fragment) : Bool :=
  match f.spacing with
  | .tight => a.owesSpace
  | .spaced | .padded => a.text != ""

def append (a : Assembly) (f : Fragment) : Assembly :=
  if f.text = "" then a
  else
    let gap := a.wantsSpace f && !endsWithSpace a.text && !startsWithSpace f.text
    { text := a.text ++ (if gap then " " else "") ++ f.text
      owesSpace := f.spacing = .padded }

def appendAll (a : Assembly) (fragments : List Fragment) : Assembly := fragments.foldl append a

def finish (a : Assembly) : String := Text.trim a.text

end Assembly

def assemble (fragments : List Fragment) : String := (Assembly.appendAll {} fragments).finish

end SqlBuilder.Sql
