/-
Nodes of a model.

A node describes an entity, a property of an entity, or the items of a list.  It
is of one of five kinds, and its kind alone decides what it becomes in a database: a
reference to another entity, a list, an enumeration, an object, or a scalar.
-/
import Tablewright.Policy
import Tablewright.Text.Blank

namespace Tablewright

/-- Limits on the values a node admits. -/
structure Facets where
  minimum : Option Number := none
  maximum : Option Number := none
  /-- Whether the minimum itself is left out. -/
  exclusiveMinimum : Bool := false
  /-- Whether the maximum itself is left out. -/
  exclusiveMaximum : Bool := false
  minLength : Option Nat := none
  maxLength : Option Nat := none
  /-- A regular expression that a text must match. -/
  pattern : Option String := none
deriving DecidableEq

/-- What an entity settles for its own table, in place of the general settings. -/
structure Overrides where
  id : Option Policy := none
  timestamp : Option Policy := none
  operator : Option Policy := none
  softDelete : Option Policy := none
  /-- Whether every declared column is a primary key. -/
  primaryKey : Option Bool := none
  /-- The type of every declared column. -/
  dataType : Option String := none
  /-- The check of every declared column. -/
  check : Option String := none
deriving DecidableEq

/-- What a node of any kind may carry. -/
structure Traits where
  /-- The declared type. -/
  type : Option String := none
  description : Option String := none
  default : Option Literal := none
  nullable : Option Bool := none
  unique : Option Bool := none
  facets : Facets := {}
deriving DecidableEq

/-- A node of a model. -/
inductive Node
  /-- An entity, with its properties in the order of the document. -/
  | object (properties : List (String × Node)) (overrides : Overrides) (traits : Traits)
  /-- A list of items. -/
  | list (items : Node) (traits : Traits)
  /-- A list whose items are not described. -/
  | bareList (traits : Traits)
  /-- One of the listed members. -/
  | enumeration (members : List Literal) (traits : Traits)
  /-- A plain value. -/
  | scalar (format : Option String) (traits : Traits)
  /-- A reference to another entity. -/
  | reference (target : String) (traits : Traits)

namespace Node

/-- What the node carries whatever its kind. -/
def traits : Node → Traits
  | object _ _ traits | list _ traits | bareList traits
  | enumeration _ traits | scalar _ traits | reference _ traits => traits

/-- The declared type, empty when there is none. -/
def typeName (n : Node) : String :=
  n.traits.type.getD ""

/-- Whether the declared type is one of the two types of numbers. -/
def isNumeric (n : Node) : Bool :=
  n.typeName == "number" || n.typeName == "integer"

/-- Whether the declared type is the type of texts. -/
def isText (n : Node) : Bool :=
  n.typeName == "string"

/-- Whether the node is an object. -/
def isObject : Node → Bool
  | object .. => true
  | _ => false

/-- Whether the node is a reference. -/
def isReference : Node → Bool
  | reference .. => true
  | _ => false

/-- What a message says the node is. -/
def shape : Node → String
  | object .. => "object"
  | list .. | bareList _ => "array"
  | enumeration _ traits => match traits.type with
    | some type => "enum of " ++ type
    | none => "enum"
  | reference .. => "$ref"
  | scalar _ traits => traits.type.getD "none"

/-- The format of a scalar. -/
def format? : Node → Option String
  | scalar format _ => format
  | _ => none

/-- The properties of an object. -/
def properties? : Node → Option (List (String × Node))
  | object properties _ _ => some properties
  | _ => none

/-- The overrides of an object. -/
def overrides? : Node → Option Overrides
  | object _ overrides _ => some overrides
  | _ => none

/-- The members of an enumeration. -/
def members? : Node → Option (List Literal)
  | enumeration members _ => some members
  | _ => none

/-- The description, unless it is blank. -/
def description? (n : Node) : Option String :=
  n.traits.description.filter (!Text.isBlank ·)

/-! ### Lists inside lists -/

/-- How many described lists lie around the innermost node. -/
def depth : Node → Nat
  | list items _ => items.depth + 1
  | _ => 0

/-- The node that is reached by going from lists to their items as long as these are described. -/
def leaf : Node → Node
  | list items _ => items.leaf
  | node => node

end Node

end Tablewright
