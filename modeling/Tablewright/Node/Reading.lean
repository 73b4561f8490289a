/-
Reading nodes from a document.

A node is written as a record, and its kind follows from the fields that are
given: a reference when it has a target, else a list when its type says so, else
an enumeration when it has members, else an object when its type says so, and
otherwise a scalar.

A part of a document may turn out to be a node, or the properties of an object,
each of which is a node in turn.  Every part is read both ways, from the
innermost outwards, and the record around it takes the reading that it needs.
-/
import Tablewright.Entries
import Tablewright.Node

namespace Tablewright

open Document

/-- How overrides are written in a document. -/
def Overrides.layout : Layout Tree Overrides where
  title := "struct TableOverrides"
  openEnded := true
  fields := [
    ⟨"id", [], fun t o => return { o with id := ← t.optional Policy.read }⟩,
    ⟨"timestamp", [], fun t o => return { o with timestamp := ← t.optional Policy.read }⟩,
    ⟨"operator", [], fun t o => return { o with operator := ← t.optional Policy.read }⟩,
    ⟨"softDelete", [], fun t o => return { o with softDelete := ← t.optional Policy.read }⟩,
    ⟨"primaryKey", [], fun t o => return { o with primaryKey := ← t.optional Tree.flag }⟩,
    ⟨"dataType", [], fun t o => return { o with dataType := ← t.optional Tree.text }⟩,
    ⟨"check", [], fun t o => return { o with check := ← t.optional Tree.text }⟩]

/-- The overrides that a value stands for; a flag stands for none. -/
def Overrides.ofValue? : Value → Option Overrides
  | .scalar (.flag _) => some {}
  | v => (layout.read {} v.toTree).toOption

/-- Reads overrides. -/
def Overrides.read (t : Tree) : Read Overrides :=
  t.choose "RawOverrides" ofValue?

namespace Node

/-- An exclusive limit: a flag on the limit beside it, or a limit of its own. -/
inductive Exclusive
  | flag (value : Bool)
  | limit (value : Number)
deriving DecidableEq

/-- Reads an exclusive limit. -/
def Exclusive.read (t : Tree) : Read Exclusive :=
  t.choose "Exclusive" fun
    | .scalar (.flag value) => some (flag value)
    | .scalar (.number value) => some (limit value)
    | _ => none

/-- A limit together with the exclusive one beside it: the limit that holds, and whether it is
left out. -/
def fold (limit : Option Number) : Option Exclusive → Option Number × Bool
  | none => (limit, false)
  | some (.flag value) => (limit, value)
  | some (.limit value) => (some value, true)

/-- A node as it is written, before its kind is decided. -/
structure Draft where
  type : Option String := none
  properties : Option (List (String × Node)) := none
  items : Option Node := none
  target : Option String := none
  members : Option (List Literal) := none
  minimum : Option Number := none
  maximum : Option Number := none
  exclusiveMinimum : Option Exclusive := none
  exclusiveMaximum : Option Exclusive := none
  minLength : Option Nat := none
  maxLength : Option Nat := none
  pattern : Option String := none
  format : Option String := none
  description : Option String := none
  default : Option Literal := none
  nullable : Option Bool := none
  unique : Option Bool := none
  overrides : Option Overrides := none

namespace Draft

/-- The limits of a draft. -/
def facets (d : Draft) : Facets :=
  let (minimum, exclusiveMinimum) := fold d.minimum d.exclusiveMinimum
  let (maximum, exclusiveMaximum) := fold d.maximum d.exclusiveMaximum
  { minimum, maximum, exclusiveMinimum, exclusiveMaximum
    minLength := d.minLength, maxLength := d.maxLength, pattern := d.pattern }

/-- What the node of a draft carries whatever its kind. -/
def traits (d : Draft) : Traits where
  type := d.type
  description := d.description
  default := d.default
  nullable := d.nullable
  unique := d.unique
  facets := d.facets

/-- Decides the kind. -/
def node (d : Draft) : Node :=
  match d.target with
  | some target => .reference target d.traits
  | none =>
    if d.type = some "array" then
      match d.items with
      | some items => .list items d.traits
      | none => .bareList d.traits
    else
      match d.members with
      | some members => .enumeration members d.traits
      | none =>
        if d.type = some "object" then
          .object (d.properties.getD []) (d.overrides.getD {}) d.traits
        else .scalar d.format d.traits

end Draft

/-! ### Parts -/

/-- A part of a document with its readings. -/
structure Part where
  tree : Tree
  /-- The part as a node. -/
  node : Read Node
  /-- The part as the properties of an object. -/
  properties : Read (List (String × Node))

namespace Part

/-- Reads a part that may be left out. -/
def optional {α : Type} (reading : Part → Read α) (p : Part) : Read (Option α) :=
  if p.tree.isAbsent then pure none else some <$> reading p

/-- Reads a part by its tree alone. -/
def ofTree {α : Type} (read : Tree → Read α) (p : Part) : Read (Option α) :=
  p.tree.optional read

end Part

/-- How a node is written in a document. -/
def layout : Layout Part Draft where
  title := "struct RawNode"
  openEnded := false
  fields := [
    ⟨"type", [], fun p d => return { d with type := ← p.ofTree Tree.text }⟩,
    ⟨"properties", [], fun p d => return { d with properties := ← p.optional Part.properties }⟩,
    ⟨"items", [], fun p d => return { d with items := ← p.optional Part.node }⟩,
    ⟨"$ref", [], fun p d => return { d with target := ← p.ofTree Tree.text }⟩,
    ⟨"enum", [], fun p d => return { d with members := ← p.ofTree (Tree.listOf Literal.read) }⟩,
    ⟨"minimum", [], fun p d => return { d with minimum := ← p.ofTree Tree.number }⟩,
    ⟨"maximum", [], fun p d => return { d with maximum := ← p.ofTree Tree.number }⟩,
    ⟨"exclusiveMinimum", [], fun p d =>
      return { d with exclusiveMinimum := ← p.ofTree Exclusive.read }⟩,
    ⟨"exclusiveMaximum", [], fun p d =>
      return { d with exclusiveMaximum := ← p.ofTree Exclusive.read }⟩,
    ⟨"minLength", [], fun p d =>
      return { d with minLength := ← p.ofTree (Tree.count (Nat.pow 2 64) "u64") }⟩,
    ⟨"maxLength", [], fun p d =>
      return { d with maxLength := ← p.ofTree (Tree.count (Nat.pow 2 64) "u64") }⟩,
    ⟨"pattern", [], fun p d => return { d with pattern := ← p.ofTree Tree.text }⟩,
    ⟨"format", [], fun p d => return { d with format := ← p.ofTree Tree.text }⟩,
    ⟨"description", [], fun p d => return { d with description := ← p.ofTree Tree.text }⟩,
    ⟨"default", [], fun p d => return { d with default := ← p.ofTree Literal.read }⟩,
    ⟨"nullable", [], fun p d => return { d with nullable := ← p.ofTree Tree.flag }⟩,
    ⟨"unique", [], fun p d => return { d with unique := ← p.ofTree Tree.flag }⟩,
    ⟨"additionalProperties", [], fun p d => return { d with overrides := ← p.ofTree Overrides.read }⟩]

/-- A node written as a map. -/
def ofMembers (members : List (Key × Part)) (ending : MapEnd) : Read Node := do
  let draft ← layout.ofMembers (fun p => p.tree.skip) {} members ending
  pure draft.node

/-- A node written as the list of its fields. -/
def ofItems (items : List Part) (ending : ListEnd) : Read Node := do
  let draft ← layout.ofItems {} items ending
  pure draft.node

/-- The name that a key gives to an entry. -/
def entryName (key : Key) : Read String := do
  match ← key.direct with
  | .name text => pure text
  | .index _ | .other => throw (.wrongType .map "a string")

/-- Properties written as a map; a property given again takes the place of the earlier one. -/
def entriesOfMembers (members : List (Key × Part)) (ending : MapEnd) :
    Read (List (String × Node)) := do
  let pairs ← members.mapM fun (key, part) => do
    let name ← entryName key
    let node ← part.node
    pure (name, node)
  ending.read
  pure (Entries.ofList pairs)

mutual

/-- Both readings of a part. -/
def part : Tree → Part
  | .map members ending =>
    let parts := memberParts members
    ⟨.map members ending, ofMembers parts ending, entriesOfMembers parts ending⟩
  | .list items ending =>
    let t := Tree.list items ending
    ⟨t, ofItems (itemParts items) ending, t.refuse "a map"⟩
  | .barred .mark inner =>
    let p := part inner
    ⟨.barred .mark inner, p.node, p.properties⟩
  | .barred .depth inner =>
    let t := Tree.barred .depth inner
    ⟨t, throw .tooDeep, if inner matches .map .. then throw .tooDeep else t.refuse "a map"⟩
  | .leaf answers =>
    let t := Tree.leaf answers
    if answers.strict = .null ∧ answers.spelling = some "" then
      ⟨t, ofMembers [] .closed, pure []⟩
    else ⟨t, t.refuse layout.title, t.refuse "a map"⟩
  | .broken fault => ⟨.broken fault, throw fault.read, throw fault.read⟩

def itemParts : List Tree → List Part
  | [] => []
  | item :: rest => part item :: itemParts rest

def memberParts : List (Key × Tree) → List (Key × Part)
  | [] => []
  | (key, value) :: rest => (key, part value) :: memberParts rest

end

/-- Reads a node. -/
def read (t : Tree) : Read Node :=
  (part t).node

/-- Reads the entries of a map of nodes. -/
def readEntries (t : Tree) : Read (List (String × Node)) :=
  (part t).properties

end Node

end Tablewright
