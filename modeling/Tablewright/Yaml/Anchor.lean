/-
Anchors and aliases.

An anchor names a node and an alias means the node that its name was given to
last.  Names are numbered: a name that is given gets as its number how many names
are known.  Giving a known name once more therefore takes the number that the
next new name gets as well, and a number means the last node that got it.
-/
import Tablewright.Yaml.Node

namespace Tablewright.Yaml

/-- The names known so far with their numbers. -/
abbrev Names := List (String × Nat)

/-- Gives a name to a node that starts here; tells its number. -/
def Names.give (name : String) (names : Names) : Nat × Names :=
  (names.length, (name, names.length) :: names.filter (·.1 != name))

/-- The marks with a number for the anchor. -/
def Marks.number (marks : Marks String) (names : Names) : Marks Nat × Names :=
  match marks.anchor with
  | some name =>
    let (number, names) := names.give name
    (⟨some number, marks.tag⟩, names)
  | none => (⟨none, marks.tag⟩, names)

namespace Node

mutual

/-- A node with numbers for names, unless an alias has no anchor before it. -/
def number? : Node String → Names → Option (Node Nat × Names)
  | .scalar marks style text, names =>
    let (marks, names) := marks.number names
    some (.scalar marks style text, names)
  | .list marks items, names => do
    let (marks, names) := marks.number names
    let (items, names) ← numberItems? items names
    pure (.list marks items, names)
  | .map marks members, names => do
    let (marks, names) := marks.number names
    let (members, names) ← numberMembers? members names
    pure (.map marks members, names)
  | .alias name, names => do pure (.alias (← names.lookup name), names)

def numberItems? : List (Node String) → Names → Option (List (Node Nat) × Names)
  | [], names => some ([], names)
  | item :: rest, names => do
    let (item, names) ← item.number? names
    let (rest, names) ← numberItems? rest names
    pure (item :: rest, names)

def numberMembers? : List (Node String × Node String) → Names →
    Option (List (Node Nat × Node Nat) × Names)
  | [], names => some ([], names)
  | (key, value) :: rest, names => do
    let (key, names) ← key.number? names
    let (value, names) ← value.number? names
    let (rest, names) ← numberMembers? rest names
    pure ((key, value) :: rest, names)

end

/-- A node with its number, when it has one. -/
def numbered (marks : Marks Nat) (n : Node Nat) : List (Nat × Node Nat) :=
  (marks.anchor.map (·, n)).toList

mutual

/-- The nodes that have a number, in the order of the text. -/
def anchored : Node Nat → List (Nat × Node Nat)
  | .scalar marks style text => numbered marks (.scalar marks style text)
  | .list marks items => numbered marks (.list marks items) ++ anchoredItems items
  | .map marks members => numbered marks (.map marks members) ++ anchoredMembers members
  | .alias _ => []

def anchoredItems : List (Node Nat) → List (Nat × Node Nat)
  | [] => []
  | item :: rest => item.anchored ++ anchoredItems rest

def anchoredMembers : List (Node Nat × Node Nat) → List (Nat × Node Nat)
  | [] => []
  | (key, value) :: rest => key.anchored ++ value.anchored ++ anchoredMembers rest

end

mutual

/-- How many signs a node is worth: one for a scalar or an alias, two for a container. -/
def weight {ρ : Type} : Node ρ → Nat
  | .scalar _ _ _ | .alias _ => 1
  | .list _ items => 2 + weightItems items
  | .map _ members => 2 + weightMembers members

def weightItems {ρ : Type} : List (Node ρ) → Nat
  | [] => 0
  | item :: rest => item.weight + weightItems rest

def weightMembers {ρ : Type} : List (Node ρ × Node ρ) → Nat
  | [] => 0
  | (key, value) :: rest => key.weight + value.weight + weightMembers rest

end

end Node

end Tablewright.Yaml
