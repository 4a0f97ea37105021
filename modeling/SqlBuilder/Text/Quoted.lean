/-!
# Quoted literals

What stands between the single quotes of a literal. A backslash takes the character after it
literally, so the body of a literal never holds an unescaped quote.

* `textBody` : the body of a text literal; the characters that mark up a page become entities.
* `jsonBody` : the body of a literal that holds a JSON text, which keeps its double quotes.
* `quote` : a body between its two quotes.
-/

namespace SqlBuilder.Text

set_option autoImplicit false

/-- How one character of a text is written inside a literal. -/
def textChar : Char → List Char
  | '\\' => ['\\', '\\']
  | '\'' => ['\\', '\'']
  | '"' => ['&', 'q', 'u', 'o', 't', ';']
  | '&' => ['&', 'a', 'm', 'p', ';']
  | '<' => ['&', 'l', 't', ';']
  | '>' => ['&', 'g', 't', ';']
  | c => [c]

/-- How one character of a JSON text is written inside a literal. -/
def jsonChar : Char → List Char
  | '\\' => ['\\', '\\']
  | '\'' => ['\\', '\'']
  | c => [c]

def textBody (s : String) : String := String.ofList (s.toList.flatMap textChar)

def jsonBody (s : String) : String := String.ofList (s.toList.flatMap jsonChar)

/-- A body between single quotes. -/
def quote (body : String) : String := "'" ++ body ++ "'"

theorem toList_quote (body : String) : (quote body).toList = '\'' :: (body.toList ++ ['\'']) := by
  simp [quote, String.toList_append]

end SqlBuilder.Text
