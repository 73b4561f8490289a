/-
Values: trees that were read whole.

Where several readings of a part are tried in turn, the part is first read into
a value, which has lost its spelling and holds no faults.  A map keeps all its
members in order, repeated keys included.
-/
import Tablewright.Document.Tree

namespace Tablewright.Document

/-- A document that was read whole, whatever it holds. -/
inductive Value
  | scalar (s : Scalar)
  | list (items : List Value)
  | map (members : List (Label × Value))

mutual

/-- Reads a tree whole. -/
def Tree.value : Tree → Read Value
  | .leaf scalar => match scalar.loose with
    | some .oversized | none => throw (.wrongType .null "a value")
    | some s => pure (.scalar s)
  | .list items ending => do
    let values ← Tree.values items
    ending.read
    pure (.list values)
  | .map members ending => do
    let values ← Tree.memberValues members
    ending.read
    pure (.map values)
  | .barred .depth _ => throw .tooDeep
  | .barred .mark _ => throw (.wrongType .map "a value")
  | .broken fault => throw fault.read

def Tree.values : List Tree → Read (List Value)
  | [] => pure []
  | item :: rest => do
    let value ← Tree.value item
    let values ← Tree.values rest
    pure (value :: values)

def Tree.memberValues : List (Key × Tree) → Read (List (Label × Value))
  | [] => pure []
  | (key, item) :: rest => do
    let label ← key.loose
    let value ← Tree.value item
    let values ← Tree.memberValues rest
    pure ((label, value) :: values)

end

namespace Value

/-- The empty value. -/
def null : Value := scalar .null

mutual

/-- A value as a tree without faults. -/
def toTree : Value → Tree
  | scalar s => .ofScalar s
  | list items => .list (itemTrees items) .closed
  | map members => .map (memberTrees members) .closed

def itemTrees : List Value → List Tree
  | [] => []
  | item :: rest => item.toTree :: itemTrees rest

def memberTrees : List (Label × Value) → List (Key × Tree)
  | [] => []
  | (label, value) :: rest => (⟨pure label, pure label⟩, value.toTree) :: memberTrees rest

end

/-- Whether a value is a map. -/
def isMap : Value → Bool
  | map _ => true
  | _ => false

end Value

/-- Reads a part whole and takes the first reading of it that fits; `title` names the choice. -/
def Tree.choose {α : Type} (title : String) (readings : Value → Option α) (t : Tree) : Read α := do
  match readings (← t.value) with
  | some a => pure a
  | none => throw (.noVariant title)

end Tablewright.Document
