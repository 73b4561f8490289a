/-
Checks that follow from limits on values.

A number is compared with its minimum and maximum, and the length of a text with
its limits; a pattern is matched without regard to case.  A limit of zero is a
limit like any other.  Each limit gives one condition, and all of them must hold.
-/
import Tablewright.Node
import Tablewright.Text.Join

namespace Tablewright

namespace Facets

/-- The conditions on a number. -/
def numericConditions (f : Facets) (column : String) : List String :=
  (f.minimum.map fun n =>
    column ++ (if f.exclusiveMinimum then " > " else " >= ") ++ n.text).toList ++
  (f.maximum.map fun n =>
    column ++ (if f.exclusiveMaximum then " < " else " <= ") ++ n.text).toList

/-- The conditions on a text. -/
def textConditions (f : Facets) (column : String) : List String :=
  (f.minLength.map fun n => "char_length(" ++ column ++ ") >= " ++ toString n).toList ++
  (f.maxLength.map fun n => "char_length(" ++ column ++ ") <= " ++ toString n).toList ++
  (f.pattern.map fun p => Sql.quote p ++ " ~* " ++ column).toList

end Facets

namespace Node

/-- The conditions that a column must meet. -/
def conditions (n : Node) (column : String) : List String :=
  if n.isNumeric then n.traits.facets.numericConditions column
  else if n.isText then n.traits.facets.textConditions column
  else []

/-- The check of a column, when there is anything to check. -/
def check? (n : Node) (column : String) : Option String :=
  match n.conditions column with
  | [] => none
  | conditions => some (Text.join " AND " conditions)

end Node

end Tablewright
