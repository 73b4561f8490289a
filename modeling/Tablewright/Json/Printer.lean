/-
Values as JSON texts, without blanks.

Labels that are no names and numbers that JSON cannot write do not occur in
values that come from JSON; they are written as `null`.
-/
import Tablewright.Json.Quoted
import Tablewright.Document.Value

namespace Tablewright.Json

open Document

/-- The parts of a container with commas between them. -/
def separated : List (List Char) → List Char
  | [] => []
  | [part] => part
  | part :: parts => part ++ ',' :: separated parts

/-- A scalar as JSON. -/
def printScalar : Scalar → List Char
  | .flag true => ['t', 'r', 'u', 'e']
  | .flag false => ['f', 'a', 'l', 's', 'e']
  | .number n => n.text.toList
  | .text s => quoted s
  | .null | .unbounded | .oversized => ['n', 'u', 'l', 'l']

/-- The key of a member as JSON. -/
def printLabel : Label → List Char
  | .name text => quoted text
  | .index position => quoted (toString position)
  | .other => quoted ""

mutual

/-- A value as JSON. -/
def print : Value → List Char
  | .scalar s => printScalar s
  | .list items => '[' :: (separated (printItems items) ++ [']'])
  | .map members => '\x7b' :: (separated (printMembers members) ++ ['\x7d'])

def printItems : List Value → List (List Char)
  | [] => []
  | item :: rest => print item :: printItems rest

def printMembers : List (Label × Value) → List (List Char)
  | [] => []
  | (label, value) :: rest => (printLabel label ++ ':' :: print value) :: printMembers rest

end

/-- The text of a value. -/
def text (v : Value) : String :=
  String.ofList (print v)

end Tablewright.Json
