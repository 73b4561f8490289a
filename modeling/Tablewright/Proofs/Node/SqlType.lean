/-
The SQL type of a property is that of its leaf.

Going from a list to its items takes one `[]` off the type and changes nothing
else, so the leaf alone decides whether there is a type, which one it is, and
whether a warning comes with it.  `sqlType_gives` is that argument; the induction
follows the lists down to the leaf.

An enumeration inside lists is also described without the leaf, by `Nests`, a
relation with one rule for the enumeration and one for a list around it; so is a
number whose format is not known, by `Unreadable`.
-/
import Tablewright.Node.SqlType
import Tablewright.Proofs.Checked
import Tablewright.Proofs.Entries

namespace Tablewright

/-! ### The type of a number -/

/-- The SQL type of a number, whatever its format is. -/
def numericName (format : Option String) : String :=
  match format with
  | none => "integer"
  | some format => (numericFormats.lookup format).getD "integer"

/-- The warning that a format of numbers gives when it is not known. -/
def numericWarnings (format : Option String) (address : ColumnAddress) : Log :=
  match format with
  | none => []
  | some format =>
    if (numericFormats.lookup format).isSome then []
    else [⟨.unknownNumericFormat, address.name,
      "Unknown numeric format '" ++ format ++ "', falling back to integer"⟩]

theorem numericType_gives (format : Option String) (address : ColumnAddress) :
    Warned.Gives (numericType format address) (numericName format)
      (numericWarnings format address) := by
  cases format with
  | none => exact Warned.gives_pure "integer"
  | some format =>
      unfold numericType numericName numericWarnings
      cases hlookup : numericFormats.lookup format with
      | some type => simpa [hlookup] using Warned.gives_pure type
      | none =>
          simp only [hlookup, Option.getD_none, Option.isSome_none, Bool.false_eq_true, if_false]
          exact Warned.gives_bind (Warned.gives_warn _ _ _) (Warned.gives_pure "integer")

namespace Node

/-! ### The type of a leaf -/

/-- The SQL type of a scalar. -/
def scalarName (format : Option String) (traits : Traits) : String :=
  let type := traits.type.getD ""
  if type = "number" ∨ type = "integer" then numericName format
  else if type = "string" then (textType? format traits.facets.maxLength).getD type
  else type

/-- The warnings that the type of a scalar gives. -/
def scalarWarnings (format : Option String) (traits : Traits) (address : ColumnAddress) : Log :=
  let type := traits.type.getD ""
  if type = "number" ∨ type = "integer" then numericWarnings format address else []

theorem scalarType_gives (format : Option String) (traits : Traits) (address : ColumnAddress) :
    Warned.Gives (scalarType format traits address) (scalarName format traits)
      (scalarWarnings format traits address) := by
  simp only [scalarType, scalarName, scalarWarnings]
  split
  · exact numericType_gives format address
  · split
    · exact Warned.gives_pure _
    · exact Warned.gives_pure _

/-- Whether the declared type is one that the members of an enumeration can have. -/
def Admits (traits : Traits) : Prop :=
  let type := traits.type.getD ""
  type = "number" ∨ type = "integer" ∨ type = "string"

instance (traits : Traits) : Decidable (Admits traits) :=
  inferInstanceAs (Decidable (_ ∨ _ ∨ _))

/-- Why a node that no described list surrounds has no type. -/
def leafFailure? (address : ColumnAddress) : Node → Option Failure
  | bareList _ => some (.missingItems address.name)
  | enumeration _ traits =>
    if Admits traits then none
    else some (.enumBase address.name
      (if traits.type.getD "" = "" then "none" else traits.type.getD ""))
  | _ => none

/-- The type of a node that no described list surrounds. -/
def leafName (address : ColumnAddress) : Node → String
  | reference .. => "serial"
  | enumeration .. => address.enumTypeName
  | scalar format traits => scalarName format traits
  | object _ _ traits => traits.type.getD ""
  | list .. | bareList _ => ""

/-- The warnings that come with the type of such a node. -/
def leafWarnings (address : ColumnAddress) : Node → Log
  | scalar format traits => scalarWarnings format traits address
  | _ => []

/-! ### The type of a property -/

/-- The marks that follow the type of the leaf, one for every list around it. -/
def marks : Nat → String
  | 0 => ""
  | k + 1 => marks k ++ "[]"

/-- Why a property has no type. -/
def typeFailure? (address : ColumnAddress) (n : Node) : Option Failure :=
  n.leaf.leafFailure? address

/-- The type of a property that has one. -/
def columnType (address : ColumnAddress) (n : Node) : String :=
  n.leaf.leafName address ++ marks n.depth

@[simp] theorem columnType_object (address : ColumnAddress) (properties : List (String × Node))
    (overrides : Overrides) (traits : Traits) :
    (object properties overrides traits).columnType address = traits.type.getD "" :=
  String.append_empty

@[simp] theorem columnType_list (address : ColumnAddress) (items : Node) (traits : Traits) :
    (list items traits).columnType address = items.columnType address ++ "[]" :=
  String.append_assoc.symm

@[simp] theorem columnType_enumeration (address : ColumnAddress) (members : List Literal)
    (traits : Traits) : (enumeration members traits).columnType address = address.enumTypeName :=
  String.append_empty

@[simp] theorem columnType_scalar (address : ColumnAddress) (format : Option String)
    (traits : Traits) : (scalar format traits).columnType address = scalarName format traits :=
  String.append_empty

@[simp] theorem columnType_reference (address : ColumnAddress) (target : String) (traits : Traits) :
    (reference target traits).columnType address = "serial" :=
  String.append_empty

/-- The warnings that come with the type of a property. -/
def typeWarnings (address : ColumnAddress) (n : Node) : Log :=
  n.leaf.leafWarnings address

private theorem enumType_eq (traits : Traits) (members : List Literal) (address : ColumnAddress) :
    enumType traits address
      = barring (leafFailure? address (enumeration members traits)) address.enumTypeName := by
  by_cases h : Admits traits
  · have hname : enumType traits address = .ok address.enumTypeName := if_pos h
    rw [hname, leafFailure?, if_pos h]
    rfl
  · have hname : enumType traits address = .error (.enumBase address.name
        (if traits.type.getD "" = "" then "none" else traits.type.getD "")) := if_neg h
    rw [hname, leafFailure?, if_neg h]
    rfl

/-- **The leaf decides the type of a property, and the lists around it add their marks.** -/
theorem sqlType_gives (address : ColumnAddress) (n : Node) :
    Checked.Gives (n.sqlType address) (n.typeFailure? address) (n.columnType address)
      (n.typeWarnings address) := by
  induction n using sqlType.induct with
  | case1 => exact Checked.gives_pure "serial"
  | case2 items _ ih =>
      rw [columnType_list]
      exact Checked.gives_map ih (· ++ "[]")
  | case3 => exact Checked.gives_throw _ _
  | case4 members traits =>
      rw [columnType_enumeration]
      exact Checked.gives_liftExcept (enumType_eq traits members address)
  | case5 format traits =>
      rw [columnType_scalar]
      exact Checked.gives_liftM (scalarType_gives format traits address)
  | case6 _ _ traits =>
      rw [columnType_object]
      exact Checked.gives_pure _

/-! ### Enumerations inside lists -/

/-- The node is an enumeration with these members inside this many lists. -/
inductive Nests (members : List Literal) : Nat → Node → Prop
  | enumeration (traits : Traits) : Nests members 0 (.enumeration members traits)
  | list {k : Nat} {items : Node} (traits : Traits) (h : Nests members k items) :
      Nests members (k + 1) (.list items traits)

theorem Nests.depth_eq {members : List Literal} {k : Nat} {n : Node} (h : n.Nests members k) :
    n.depth = k := by
  induction h with
  | enumeration _ => rfl
  | list _ _ ih => simp [depth, ih]

theorem Nests.leaf_eq {members : List Literal} {k : Nat} {n : Node} (h : n.Nests members k) :
    ∃ traits, n.leaf = .enumeration members traits := by
  induction h with
  | enumeration traits => exact ⟨traits, rfl⟩
  | list _ _ ih => exact ih

theorem nests_of_leaf {members : List Literal} {traits : Traits} {n : Node}
    (h : n.leaf = .enumeration members traits) : n.Nests members n.depth := by
  induction n using leaf.induct with
  | case1 items _ ih => exact .list _ (ih h)
  | case2 n hlist =>
      have hn : n.leaf = n := by
        cases n with
        | list items traits => exact absurd rfl (hlist items traits)
        | _ => rfl
      rw [← hn, h]
      exact .enumeration traits

/-- The type of an enumeration inside lists is the one made for its column, with a mark for every
list. -/
theorem Nests.columnType_eq {members : List Literal} {k : Nat} {n : Node}
    (h : n.Nests members k) (address : ColumnAddress) :
    n.columnType address = address.enumTypeName ++ marks k := by
  obtain ⟨traits, hleaf⟩ := h.leaf_eq
  rw [columnType, hleaf, h.depth_eq, leafName]

/-! ### Numbers of an unknown format -/

/-- The formats that numbers may have. -/
def knownFormats : List String :=
  ["int4", "integer", "number", "int2", "int8", "uint", "uint4", "uint2", "uint8", "float",
    "double", "decimal", "numeric"]

theorem map_fst_numericFormats : numericFormats.map Prod.fst = knownFormats := rfl

/-- A declared type that is named is one that was given. -/
theorem getD_type_eq_iff {traits : Traits} {type : String} (h : type ≠ "") :
    traits.type.getD "" = type ↔ traits.type = some type := by
  cases traits.type with
  | none => simp [h.symm]
  | some found => simp

/-- The node is a number in this format, which is none of the known ones, or a list of such numbers
to any depth. -/
inductive Unreadable (format : String) : Node → Prop
  | scalar {traits : Traits} (htype : traits.type = some "number" ∨ traits.type = some "integer")
      (hformat : format ∉ knownFormats) : Unreadable format (.scalar (some format) traits)
  | list {items : Node} (traits : Traits) (h : Unreadable format items) :
      Unreadable format (.list items traits)

/-- The format of the numbers that a node is or holds in lists, when it is not known. -/
def unknownFormat? (n : Node) : Option String :=
  match n.leaf with
  | scalar (some format) traits =>
    if (traits.type = some "number" ∨ traits.type = some "integer") ∧ format ∉ knownFormats then
      some format
    else none
  | _ => none

theorem unknownFormat?_eq_some_iff {n : Node} {format : String} :
    n.unknownFormat? = some format ↔ n.Unreadable format := by
  constructor
  · intro h
    induction n using leaf.induct with
    | case1 items traits ih => exact .list traits (ih h)
    | case2 n hlist =>
        cases n with
        | list items traits => exact absurd rfl (hlist items traits)
        | scalar format? traits =>
            cases format? with
            | none => exact absurd h (by simp [unknownFormat?, leaf])
            | some found =>
                have hfound : (if _ then some found else none) = some format := h
                rw [Option.ite_none_right_eq_some] at hfound
                obtain ⟨⟨htype, hformat⟩, hsame⟩ := hfound
                obtain rfl := Option.some.inj hsame
                exact .scalar htype hformat
        | _ => exact absurd h (by simp [unknownFormat?, leaf])
  · intro h
    induction h with
    | scalar htype hformat => exact if_pos ⟨htype, hformat⟩
    | list _ _ ih => exact ih

/-- The warning about such a format. -/
def unknownFormatWarning (address : ColumnAddress) (format : String) : Warning :=
  ⟨.unknownNumericFormat, address.name,
    "Unknown numeric format '" ++ format ++ "', falling back to integer"⟩

/-- The type of a property warns of a format that is not known, and of nothing else. -/
theorem typeWarnings_eq (address : ColumnAddress) (n : Node) :
    n.typeWarnings address = (n.unknownFormat?.map (unknownFormatWarning address)).toList := by
  have htype : ∀ traits : Traits,
      (traits.type.getD "" = "number" ∨ traits.type.getD "" = "integer")
        ↔ (traits.type = some "number" ∨ traits.type = some "integer") := by
    intro traits
    rw [getD_type_eq_iff (by decide), getD_type_eq_iff (by decide)]
  unfold typeWarnings unknownFormat?
  cases n.leaf with
  | scalar format? traits =>
      simp only [leafWarnings, scalarWarnings, htype]
      cases format? with
      | none => split <;> rfl
      | some format =>
          simp only [numericWarnings, isSome_lookup_iff, map_fst_numericFormats]
          by_cases hnumber : traits.type = some "number" ∨ traits.type = some "integer"
          · by_cases hformat : format ∈ knownFormats
            · simp [hnumber, hformat]
            · simp [hnumber, hformat, unknownFormatWarning]
          · simp [hnumber]
  | _ => rfl

end Node

end Tablewright
