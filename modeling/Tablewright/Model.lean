/-
Models: named entities in the order of the document.

No two entities of a model have one name, and no two properties of an entity
do.  Both are kept by the type; where names are given again, the last entry
takes the place of the first.
-/
import Tablewright.Node.Reading

namespace Tablewright

open Document

/-- The node with distinct names of properties. -/
def Node.tidy : Node → Node
  | .object properties overrides traits => .object (Entries.ofList properties) overrides traits
  | node => node

/-- No two properties of the node have one name. -/
def Node.Tidy (n : Node) : Prop :=
  ∀ properties, n.properties? = some properties → (properties.map Prod.fst).Nodup

/-- Tidying makes a node tidy. -/
theorem Node.tidy_tidy (n : Node) : n.tidy.Tidy := by
  intro properties h
  cases n <;> simp [Node.tidy, Node.properties?] at h
  subst h
  exact Entries.nodup_ofList _

/-- A model. -/
structure Model where
  /-- The entities in the order of the document. -/
  entities : List (String × Node)
  distinct : (entities.map Prod.fst).Nodup
  tidy : ∀ entity ∈ entities, entity.2.Tidy

namespace Model

/-- The model of a list of named nodes. -/
def ofList (entities : List (String × Node)) : Model where
  entities := Entries.ofList (entities.map fun (name, node) => (name, node.tidy))
  distinct := Entries.nodup_ofList _
  tidy := by
    intro entity h
    obtain ⟨pair, hpair, hvalue⟩ := List.mem_map.mp (Entries.value_mem_of_mem_ofList h)
    obtain ⟨named, _, hnamed⟩ := List.mem_map.mp hpair
    rw [← hvalue, ← hnamed]
    exact named.2.tidy_tidy

/-- The entity of this name. -/
def get? (m : Model) (name : String) : Option Node :=
  m.entities.lookup name

/-- How many entities there are. -/
def size (m : Model) : Nat :=
  m.entities.length

/-- Reads a model. -/
def read (t : Tree) : Read Model :=
  ofList <$> Node.readEntries t

end Model

end Tablewright
