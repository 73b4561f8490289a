/-
String constants of SQL.

A constant stands in single quotes, and a quote inside it is written twice.
`scan` reads such a constant at the start of a text; it stops at the first quote
that no second quote follows.
-/
namespace Tablewright.Sql

/-- A text with every single quote doubled. -/
def doubled : List Char → List Char
  | [] => []
  | c :: rest => if c = '\'' then '\'' :: '\'' :: doubled rest else c :: doubled rest

/-- A text as a string constant. -/
def quote (s : String) : String :=
  String.ofList ('\'' :: (doubled s.toList ++ ['\'']))

/-- Reads the rest of a string constant after its opening quote; gives its value and the text
after the closing quote, or nothing when the constant is not closed. -/
def scanConstant : List Char → Option (List Char × List Char)
  | [] => none
  | '\'' :: '\'' :: rest => (scanConstant rest).map fun (value, after) => ('\'' :: value, after)
  | c :: rest =>
    if c = '\'' then some ([], rest)
    else (scanConstant rest).map fun (value, after) => (c :: value, after)

/-- Reads a string constant at the start of a text. -/
def scan : List Char → Option (List Char × List Char)
  | c :: rest => if c = '\'' then scanConstant rest else none
  | [] => none

end Tablewright.Sql
