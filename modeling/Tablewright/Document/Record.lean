/-
Records: named fields read from a document.

A record is written as a map from names to values or as the list of its values
in declaration order.  In a map, names that no field has are passed over and a
field given twice is a fault; in a list, the last fields may be missing only
when the record says so.  Fields are stored one by one into a draft, in the order of the
text, so that the first fault of the text is the one reported.
-/
import Tablewright.Document.Value

namespace Tablewright.Document

/-- A field of a record with draft `δ`, stored from a part of type `V`. -/
structure Field (V δ : Type) where
  /-- The name that messages use. -/
  name : String
  /-- Other names of the field. -/
  aliases : List String := []
  /-- Reads the value and stores it. -/
  store : V → δ → Read δ

/-- How a record is written. -/
structure Layout (V δ : Type) where
  /-- What messages call the record. -/
  title : String
  fields : List (Field V δ)
  /-- Whether a list may leave out the last fields. -/
  openEnded : Bool

namespace Layout

variable {V δ : Type}

/-- The title and the number of fields, as a message about a short list says it. -/
def lengthTitle (layout : Layout V δ) : String :=
  layout.title ++ " with " ++ toString layout.fields.length ++ " elements"

/-- The position of the field that a label names. -/
def position? (layout : Layout V δ) : Label → Read (Option Nat)
  | .name text =>
    pure (layout.fields.findIdx? fun field => field.name == text || field.aliases.contains text)
  | .index position => pure (if position < layout.fields.length then some position else none)
  | .other => throw (.wrongType .map "field identifier")

/-- Refuses a field that was already given. -/
def checkFresh (layout : Layout V δ) (seen : List Nat) (position : Nat) : Read Unit :=
  if seen.contains position then
    throw (.repeatedField (layout.fields[position]?.elim "" (·.name)))
  else pure ()

/-- Stores the members of a map, and tells which fields they gave. -/
def storeMembers (layout : Layout V δ) (skip : V → Read Unit) :
    List (Key × V) → List Nat → δ → Read (List Nat × δ)
  | [], seen, draft => pure (seen, draft)
  | (key, value) :: rest, seen, draft => do
    match ← layout.position? (← key.direct) with
    | none =>
      skip value
      storeMembers layout skip rest seen draft
    | some position =>
      layout.checkFresh seen position
      match layout.fields[position]? with
      | none => storeMembers layout skip rest seen draft
      | some field =>
        let draft ← field.store value draft
        storeMembers layout skip rest (position :: seen) draft

/-- Reads a record from the members of a map. -/
def ofMembers (layout : Layout V δ) (skip : V → Read Unit) (empty : δ)
    (members : List (Key × V)) (ending : MapEnd) : Read δ := do
  let (seen, draft) ← layout.storeMembers skip members [] empty
  match ending with
  | .afterKey key _ =>
    match ← layout.position? (← key.direct) with
    | some position => layout.checkFresh seen position
    | none => pure ()
  | _ => pure ()
  ending.read
  pure draft

/-- Stores the items of a list into the fields from `position` on, and gives the items left over. -/
def storeItems (layout : Layout V δ) (ending : ListEnd) :
    List (Field V δ) → (position : Nat) → List V → δ → Read (List V × δ)
  | [], _, items, draft => pure (items, draft)
  | field :: fields, position, item :: items, draft => do
    let draft ← field.store item draft
    storeItems layout ending fields (position + 1) items draft
  | _ :: _, position, [], draft => do
    ending.read
    if layout.openEnded then pure ([], draft)
    else throw (.wrongLength position layout.lengthTitle)

/-- Reads a record from the items of a list. -/
def ofItems (layout : Layout V δ) (empty : δ) (items : List V) (ending : ListEnd) : Read δ := do
  let (unread, draft) ← layout.storeItems ending layout.fields 0 items empty
  ending.stop (!unread.isEmpty)
  pure draft

/-- Reads a record from a tree. -/
def read (layout : Layout Tree δ) (empty : δ) : Tree → Read δ
  | .map members ending => layout.ofMembers Tree.skip empty members ending
  | .list items ending => layout.ofItems empty items ending
  | .barred .mark (.map members ending) => layout.ofMembers Tree.skip empty members ending
  | .barred .mark (.list items ending) => layout.ofItems empty items ending
  | .barred .depth _ => throw .tooDeep
  | .leaf ⟨.null, _, some "", _⟩ => layout.ofMembers Tree.skip empty [] .closed
  | t => t.refuse layout.title

end Layout

/-- The value of a field that must be given. -/
def require {α : Type} (name : String) : Option α → Read α
  | some a => pure a
  | none => throw (.missingField name)

end Tablewright.Document
