/-
TOML tables while they are written.

A table comes about in one of four ways, and that decides what may still be added
to it.  A table in braces is complete.  One that was only named on the way to
another may get a header of its own, once.  One that a dotted key made may be
added to by dotted keys.  Of an array of tables, the last table is the one that
is added to.
-/
import Tablewright.Document.Tree

namespace Tablewright.Toml

open Document

/-- How a table came about. -/
inductive Origin
  /-- It was written in braces. -/
  | braces
  /-- It has a header of its own. -/
  | header
  /-- A header named it on the way to another table. -/
  | implied
  /-- A dotted key made it. -/
  | dotted
deriving DecidableEq

/-- What a key stands for. -/
inductive Item
  | scalar (s : Scalar)
  /-- A date or a time of day, as it is written. -/
  | moment (text : String)
  | list (items : List Item)
  /-- Tables with one header, the last one first. -/
  | tables (tables : List (List (String × Item)))
  | table (origin : Origin) (members : List (String × Item))

/-- The members of a table. -/
abbrev Members := List (String × Item)

namespace Members

/-- Replaces the item of a key that is there. -/
def replace (ms : Members) (key : String) (item : Item) : Members :=
  ms.map fun (name, old) => (name, if name = key then item else old)

/-- Adds a key that is not there yet. -/
def define? (ms : Members) (key : String) (item : Item) : Option Members :=
  if (ms.lookup key).isSome then none else some (ms ++ [(key, item)])

/-- The table that a step of a header's path leads to, with the way to put it back changed. -/
def headerStep (ms : Members) (key : String) : Option (Members × (Members → Members)) :=
  match ms.lookup key with
  | none => some ([], fun inner => ms ++ [(key, .table .implied inner)])
  | some (.table .braces _) => none
  | some (.table origin inner) => some (inner, fun inner => ms.replace key (.table origin inner))
  | some (.tables (last :: others)) => some (last, fun last => ms.replace key (.tables (last :: others)))
  | some _ => none

/-- Changes the table at the end of a header's path. -/
def atHeader? (change : Members → Option Members) : List String → Members → Option Members
  | [], ms => change ms
  | key :: path, ms => do
    let (inner, back) ← ms.headerStep key
    pure (back (← atHeader? change path inner))

/-- The table that a step of a dotted key leads to, with the way to put it back changed; only a
table that a dotted key made may be added to, and the others must have no header. -/
def dottedStep (ms : Members) (key : String) (final : Bool) : Option (Members × (Members → Members)) :=
  match ms.lookup key with
  | none => some ([], fun inner => ms ++ [(key, .table .dotted inner)])
  | some (.table .dotted inner) => some (inner, fun inner => ms.replace key (.table .dotted inner))
  | some (.table .implied inner) =>
    if final then none else some (inner, fun inner => ms.replace key (.table .implied inner))
  | some (.tables (last :: others)) =>
    if final then none else some (last, fun last => ms.replace key (.tables (last :: others)))
  | some _ => none

/-- Defines a dotted key. -/
def set? (item : Item) : List String → Members → Option Members
  | [], _ => none
  | [key], ms => ms.define? key item
  | key :: path, ms => do
    let (inner, back) ← ms.dottedStep key (path.length = 1)
    pure (back (← set? item path inner))

/-- Opens a table of this key by its header. -/
def openTable? (key : String) (ms : Members) : Option Members :=
  match ms.lookup key with
  | none => some (ms ++ [(key, .table .header [])])
  | some (.table .implied inner) => some (ms.replace key (.table .header inner))
  | some _ => none

/-- Opens one more table of an array of tables by its header. -/
def openNext? (key : String) (ms : Members) : Option Members :=
  match ms.lookup key with
  | none => some (ms ++ [(key, .tables [[]])])
  | some (.tables tables) => some (ms.replace key (.tables ([] :: tables)))
  | some _ => none

/-- Opens a table by the header of a path, which is not empty. -/
def openPath? (next : Bool) (path : List String) (ms : Members) : Option Members := do
  let key ← path.getLast?
  atHeader? (if next then openNext? key else openTable? key) path.dropLast ms

end Members

/-! ### Trees -/

mutual

/-- An item as a tree.  A record may leave items of a list unread, and a moment is a map of one
reserved name. -/
def Item.tree : Item → Tree
  | .scalar s => .ofScalar s
  | .moment text =>
    .map [(.ofText (pure "$__toml_private_datetime"), .ofScalar (.text text))] .closed
  | .list items => .list (itemTrees items) .unchecked
  | .tables tables => .list (tableTrees tables).reverse .unchecked
  | .table _ members => .map (memberTrees members) .closed

def itemTrees : List Item → List Tree
  | [] => []
  | item :: rest => item.tree :: itemTrees rest

def tableTrees : List (List (String × Item)) → List Tree
  | [] => []
  | members :: rest => .map (memberTrees members) .closed :: tableTrees rest

def memberTrees : List (String × Item) → List (Key × Tree)
  | [] => []
  | (name, item) :: rest => (.ofText (pure name), item.tree) :: memberTrees rest

end

end Tablewright.Toml
