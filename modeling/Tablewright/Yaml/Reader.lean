/-
YAML texts as trees.

Aliases are followed and the nodes they mean take their place.  Two limits keep
that from going on for ever: how deep containers may lie in one another, and how
many aliases may be followed in a document of a given size.
-/
import Tablewright.Document.Value
import Tablewright.Yaml.Anchor
import Tablewright.Yaml.Resolution

namespace Tablewright.Yaml

open Document

/-- How deep containers may lie in one another. -/
def depthLimit : Nat := 128

/-- How many aliases may be followed for each sign of a document. -/
def aliasesPerSign : Nat := 100

/-- A value that no reader can read. -/
def unreadable : Tree :=
  .broken ⟨.tooDeep, none, .tooDeep⟩

/-- What a part is as a key. -/
def keyOf (t : Tree) : Key where
  direct := .name <$> t.text
  loose := do
    match ← t.value with
    | .scalar (.text s) => pure (.name s)
    | .scalar (.number n) => pure (n.natural?.elim .other .index)
    | _ => pure .other

/-- The node that an alias means, when there are aliases left to follow. -/
def follow (target : Nat → Option (Node Nat)) (n : Node Nat) : StateM Nat (Option (Node Nat)) := do
  match n with
  | .alias number =>
    match ← get with
    | 0 => pure none
    | left + 1 =>
      set left
      pure (target number)
  | n => pure (some n)

/-- A container, barred when it has a tag of the document's own. -/
def withTag (marks : Marks Nat) (t : Tree) : Tree :=
  if marks.tag.any isLocalTag then .barred .mark t else t

/-- A node as a tree, with the way to read the nodes inside it where that is allowed. -/
def treeWith (target : Nat → Option (Node Nat)) (inside : Option (Node Nat → StateM Nat Tree))
    (n : Node Nat) : StateM Nat Tree := do
  match ← follow target n, inside with
  | some (.scalar marks style text), _ => pure (.leaf (leafOf style marks.tag text))
  | some (.list marks items), some read => do
    let items ← items.mapM read
    pure (withTag marks (.list items .closed))
  | some (.map marks members), some read => do
    let members ← members.mapM fun (key, value) => do
      let key ← read key
      pure (keyOf key, ← read value)
    pure (withTag marks (.map members .closed))
  | some (.list _ _), none => pure (.barred .depth (.list [] .closed))
  | some (.map _ _), none => pure (.barred .depth (.map [] .closed))
  | some (.alias _), _ | none, _ => pure unreadable

/-- A node as a tree, inside which containers may lie so many levels deep. -/
def treeWithin (target : Nat → Option (Node Nat)) : (depth : Nat) → Node Nat → StateM Nat Tree
  | 0 => treeWith target none
  | depth + 1 => treeWith target (some (treeWithin target depth))

/-- A document as a tree. -/
def Node.tree (root : Node Nat) : Tree :=
  let anchored := root.anchored.reverse
  ((treeWithin (anchored.lookup ·) depthLimit root).run (aliasesPerSign * root.weight)).1

/-- The tree of a text, unless the text is not well formed or holds several documents. -/
def parse? (s : String) : Option Tree := do
  match ← document? (← tokens? s) with
  | none => pure (.leaf (plainLeaf ""))
  | some root => do
    let (root, _) ← root.number? []
    pure root.tree

end Tablewright.Yaml
