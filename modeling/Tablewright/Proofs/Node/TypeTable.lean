/-
The table of SQL types.

What a node becomes is written down here as a table, one rule for each row, apart
from the functions that look it up: the formats of numbers in `IsNumberType`, those
of texts in `IsTextType`, and the kinds of nodes in `Resolves`.  A row never
mentions lists.  The lists around a node are passed first, each of them adds its
mark, and only the node that is reached then is looked up.

The table has no row for a list without items, and none for an enumeration of a
type that no members can have.  These two are what fails.
-/
import Tablewright.Proofs.Node.SqlType

namespace Tablewright

/-! ### Formats -/

/-- The type of numbers in a format. -/
inductive IsNumberType : Option String → String → Prop
  | unset : IsNumberType none "integer"
  | integer {format : String} (h : format ∈ ["int4", "integer", "number"]) :
      IsNumberType (some format) "integer"
  | small : IsNumberType (some "int2") "smallint"
  | big : IsNumberType (some "int8") "bigint"
  | serial {format : String} (h : format ∈ ["uint", "uint4"]) : IsNumberType (some format) "serial"
  | smallSerial : IsNumberType (some "uint2") "smallserial"
  | bigSerial : IsNumberType (some "uint8") "bigserial"
  | real : IsNumberType (some "float") "real"
  | double : IsNumberType (some "double") "double precision"
  | exact {format : String} (h : format ∈ ["decimal", "numeric"]) :
      IsNumberType (some format) format
  /-- A format that no other row lists is passed over, with a warning. -/
  | unlisted {format : String} (h : format ∉ Node.knownFormats) :
      IsNumberType (some format) "integer"

/-- A type with a length behind it, where there is one. -/
def sized (type : String) : Option Nat → String
  | none => type
  | some length => type ++ "(" ++ toString length ++ ")"

theorem prefix_sized (type : String) (length : Option Nat) :
    type.toList <+: (sized type length).toList := by
  cases length with
  | none => exact List.prefix_refl _
  | some n => simp [sized]

/-- The formats that texts may have. -/
def knownTextFormats : List String :=
  ["binary", "byte", "text", "date", "date-time", "uuid", "ipv4", "ipv6", "character", "char",
    "character varying", "varchar"]

theorem map_fst_textFormats : textFormats.map Prod.fst = knownTextFormats := rfl

/-- The type of texts in a format, with this limit on their length. -/
inductive IsTextType : Option String → Option Nat → String → Prop
  | unset (length : Option Nat) : IsTextType none length (sized "character varying" length)
  | text {format : String} (length : Option Nat) (h : format ∈ ["binary", "byte", "text"]) :
      IsTextType (some format) length "text"
  | date (length : Option Nat) : IsTextType (some "date") length "date"
  | timestamp (length : Option Nat) : IsTextType (some "date-time") length "timestamp"
  | uuid (length : Option Nat) : IsTextType (some "uuid") length "uuid"
  | cidr {format : String} (length : Option Nat) (h : format ∈ ["ipv4", "ipv6"]) :
      IsTextType (some format) length "cidr"
  | character {format : String} (length : Option Nat) (h : format ∈ ["character", "char"]) :
      IsTextType (some format) length (sized "character" length)
  | varying {format : String} (length : Option Nat)
      (h : format ∈ ["character varying", "varchar"]) :
      IsTextType (some format) length (sized "character varying" length)
  /-- A format that no other row lists leaves the declared type. -/
  | unlisted {format : String} (length : Option Nat) (h : format ∉ knownTextFormats) :
      IsTextType (some format) length "string"

theorem exists_isNumberType (format : Option String) : ∃ type, IsNumberType format type := by
  cases format with
  | none => exact ⟨_, .unset⟩
  | some format =>
      by_cases hknown : format ∈ Node.knownFormats
      · have hrows : ∀ format ∈ Node.knownFormats, ∃ type, IsNumberType (some format) type := by
          simp only [Node.knownFormats, List.forall_mem_cons]
          exact ⟨⟨_, .integer (by simp)⟩, ⟨_, .integer (by simp)⟩, ⟨_, .integer (by simp)⟩,
            ⟨_, .small⟩, ⟨_, .big⟩, ⟨_, .serial (by simp)⟩, ⟨_, .serial (by simp)⟩,
            ⟨_, .smallSerial⟩, ⟨_, .bigSerial⟩, ⟨_, .real⟩, ⟨_, .double⟩, ⟨_, .exact (by simp)⟩,
            ⟨_, .exact (by simp)⟩, by simp⟩
        exact hrows format hknown
      · exact ⟨_, .unlisted hknown⟩

theorem IsNumberType.eq_numericName {format : Option String} {type : String}
    (h : IsNumberType format type) : type = numericName format := by
  have hinteger : ∀ format ∈ ["int4", "integer", "number"],
      "integer" = numericName (some format) := by decide
  have hserial : ∀ format ∈ ["uint", "uint4"], "serial" = numericName (some format) := by decide
  have hexact : ∀ format ∈ ["decimal", "numeric"], format = numericName (some format) := by decide
  cases h with
  | integer h => exact hinteger _ h
  | serial h => exact hserial _ h
  | exact h => exact hexact _ h
  | unlisted h =>
      rw [← Node.map_fst_numericFormats] at h
      rw [numericName, lookup_eq_none_of_notMem h, Option.getD_none]
  | _ => rfl

/-- **The type of a number is the one of the table.** -/
theorem isNumberType_iff {format : Option String} {type : String} :
    IsNumberType format type ↔ type = numericName format := by
  constructor
  · exact IsNumberType.eq_numericName
  · rintro rfl
    obtain ⟨type, h⟩ := exists_isNumberType format
    exact h.eq_numericName ▸ h

theorem exists_isTextType (format : Option String) (length : Option Nat) :
    ∃ type, IsTextType format length type := by
  cases format with
  | none => exact ⟨_, .unset length⟩
  | some format =>
      by_cases hknown : format ∈ knownTextFormats
      · have hrows : ∀ format ∈ knownTextFormats, ∃ type, IsTextType (some format) length type := by
          simp only [knownTextFormats, List.forall_mem_cons]
          exact ⟨⟨_, .text _ (by simp)⟩, ⟨_, .text _ (by simp)⟩, ⟨_, .text _ (by simp)⟩,
            ⟨_, .date _⟩, ⟨_, .timestamp _⟩, ⟨_, .uuid _⟩, ⟨_, .cidr _ (by simp)⟩,
            ⟨_, .cidr _ (by simp)⟩, ⟨_, .character _ (by simp)⟩, ⟨_, .character _ (by simp)⟩,
            ⟨_, .varying _ (by simp)⟩, ⟨_, .varying _ (by simp)⟩, by simp⟩
        exact hrows format hknown
      · exact ⟨_, .unlisted length hknown⟩

/-- A text type whose length may be limited has its length behind it. -/
theorem TextType.text_eq_sized (name : String) (length : Option Nat) :
    TextType.text ⟨name, true⟩ length = sized name length := by
  cases length <;> rfl

theorem IsTextType.eq_textType {format : Option String} {length : Option Nat} {type : String}
    (h : IsTextType format length type) : type = (textType? format length).getD "string" := by
  have hlookup : ∀ {format : String} (row : TextType), textFormats.lookup format = some row →
      (textType? (some format) length).getD "string" = row.text length := by
    intro format row hrow
    rw [textType?, hrow]
    rfl
  have htext : ∀ format ∈ ["binary", "byte", "text"],
      textFormats.lookup format = some ⟨"text", false⟩ := by
    simp only [List.forall_mem_cons]
    exact ⟨rfl, rfl, rfl, by simp⟩
  have hcidr : ∀ format ∈ ["ipv4", "ipv6"],
      textFormats.lookup format = some ⟨"cidr", false⟩ := by
    simp only [List.forall_mem_cons]
    exact ⟨rfl, rfl, by simp⟩
  have hcharacter : ∀ format ∈ ["character", "char"],
      textFormats.lookup format = some ⟨"character", true⟩ := by
    simp only [List.forall_mem_cons]
    exact ⟨rfl, rfl, by simp⟩
  have hvarying : ∀ format ∈ ["character varying", "varchar"],
      textFormats.lookup format = some ⟨"character varying", true⟩ := by
    simp only [List.forall_mem_cons]
    exact ⟨rfl, rfl, by simp⟩
  cases h with
  | unset => exact (TextType.text_eq_sized _ length).symm
  | text _ h => exact (hlookup _ (htext _ h)).symm
  | cidr _ h => exact (hlookup _ (hcidr _ h)).symm
  | character _ h => rw [hlookup _ (hcharacter _ h), TextType.text_eq_sized]
  | varying _ h => rw [hlookup _ (hvarying _ h), TextType.text_eq_sized]
  | unlisted _ h =>
      rw [← map_fst_textFormats] at h
      rw [textType?, lookup_eq_none_of_notMem h]
      rfl
  | _ => rfl

/-- **The type of a text is the one of the table.** -/
theorem isTextType_iff {format : Option String} {length : Option Nat} {type : String} :
    IsTextType format length type ↔ type = (textType? format length).getD "string" := by
  constructor
  · exact IsTextType.eq_textType
  · rintro rfl
    obtain ⟨type, h⟩ := exists_isTextType format length
    exact h.eq_textType ▸ h

/-! ### Kinds of nodes -/

namespace Node

/-- The type of a node in the table, for the column at this address. -/
inductive Resolves (address : ColumnAddress) : Node → String → Prop
  | reference (target : String) (traits : Traits) :
      Resolves address (.reference target traits) "serial"
  /-- An enumeration has the type that is named after its column. -/
  | enumeration (members : List Literal) {traits : Traits} (h : Admits traits) :
      Resolves address (.enumeration members traits)
        (address.schema ++ "." ++ address.table ++ "_" ++ address.column)
  | number {format : Option String} {traits : Traits} {type : String}
      (declared : traits.type = some "number" ∨ traits.type = some "integer")
      (h : IsNumberType format type) : Resolves address (.scalar format traits) type
  | text {format : Option String} {traits : Traits} {type : String}
      (declared : traits.type = some "string")
      (h : IsTextType format traits.facets.maxLength type) :
      Resolves address (.scalar format traits) type
  | boolean (format : Option String) {traits : Traits} (declared : traits.type = some "boolean") :
      Resolves address (.scalar format traits) "boolean"
  /-- Any other declared type is an SQL type already. -/
  | declared (format : Option String) {traits : Traits}
      (h : traits.type ∉ [some "number", some "integer", some "string", some "boolean"]) :
      Resolves address (.scalar format traits) (traits.type.getD "")
  | object (properties : List (String × Node)) (overrides : Overrides) (traits : Traits) :
      Resolves address (.object properties overrides traits) (traits.type.getD "")

section

variable {format : Option String} {traits : Traits}

theorem scalarName_of_number (h : traits.type = some "number" ∨ traits.type = some "integer") :
    scalarName format traits = numericName format := by
  rw [← getD_type_eq_iff (by decide), ← getD_type_eq_iff (by decide)] at h
  exact if_pos h

theorem scalarName_of_text (h : traits.type = some "string") :
    scalarName format traits = (textType? format traits.facets.maxLength).getD "string" := by
  simp [scalarName, h]

theorem scalarName_of_notMem (h : traits.type ∉ [some "number", some "integer", some "string"]) :
    scalarName format traits = traits.type.getD "" := by
  simp only [List.mem_cons, List.not_mem_nil, or_false, not_or,
    ← getD_type_eq_iff (show "number" ≠ "" by decide),
    ← getD_type_eq_iff (show "integer" ≠ "" by decide),
    ← getD_type_eq_iff (show "string" ≠ "" by decide)] at h
  simp [scalarName, h]

/-- A scalar has its row in the table. -/
theorem resolves_scalarName (address : ColumnAddress) :
    (scalar format traits).Resolves address (scalarName format traits) := by
  by_cases hnumber : traits.type = some "number" ∨ traits.type = some "integer"
  · rw [scalarName_of_number hnumber]
    exact .number hnumber (isNumberType_iff.mpr rfl)
  by_cases htext : traits.type = some "string"
  · rw [scalarName_of_text htext]
    exact .text htext (isTextType_iff.mpr rfl)
  have hother : traits.type ∉ [some "number", some "integer", some "string"] := by
    simp_all
  by_cases hboolean : traits.type = some "boolean"
  · rw [scalarName_of_notMem hother, hboolean]
    exact .boolean format hboolean
  · rw [scalarName_of_notMem hother]
    exact .declared format (by simp_all)

theorem Resolves.eq_scalarName {address : ColumnAddress} {type : String}
    (h : (scalar format traits).Resolves address type) : type = scalarName format traits := by
  cases h with
  | number declared h => rw [scalarName_of_number declared, h.eq_numericName]
  | text declared h => rw [scalarName_of_text declared, h.eq_textType]
  | boolean _ declared =>
      rw [scalarName_of_notMem (by simp [declared]), declared, Option.getD_some]
  | declared _ h =>
      exact (scalarName_of_notMem fun hmem => h (List.mem_append_left [some "boolean"] hmem)).symm

end

/-! ### The leaf -/

/-- What is reached behind all described lists is no described list. -/
theorem leaf_ne_list (n items : Node) (traits : Traits) : n.leaf ≠ list items traits := by
  induction n using leaf.induct with
  | case1 _ _ ih => exact ih
  | case2 n hlist =>
      intro h
      cases n with
      | list items traits => exact hlist items traits rfl
      | _ => exact absurd h (by simp [leaf])

theorem leaf_leaf (n : Node) : n.leaf.leaf = n.leaf := by
  cases hn : n.leaf with
  | list items traits => exact absurd hn (n.leaf_ne_list items traits)
  | _ => rfl

/-- The leaf has its row in the table exactly where nothing bars its type. -/
theorem resolves_leaf_iff {address : ColumnAddress} {n : Node} {type : String} :
    n.leaf.Resolves address type ↔
      n.leaf.leafFailure? address = none ∧ n.leaf.leafName address = type := by
  cases hn : n.leaf with
  | list items traits => exact absurd hn (n.leaf_ne_list items traits)
  | bareList traits =>
      constructor
      · rintro ⟨⟩
      · exact fun h => absurd h.1 (by simp [leafFailure?])
  | enumeration members traits =>
      constructor
      · rintro (_ | ⟨_, hadmits⟩)
        exact ⟨if_pos hadmits, rfl⟩
      · rintro ⟨hfailure, rfl⟩
        by_cases hadmits : Admits traits
        · exact .enumeration members hadmits
        · rw [leafFailure?, if_neg hadmits] at hfailure
          exact absurd hfailure (by simp)
  | scalar format traits =>
      constructor
      · exact fun h => ⟨rfl, h.eq_scalarName.symm⟩
      · rintro ⟨-, rfl⟩
        exact resolves_scalarName address
  | reference target traits =>
      constructor
      · rintro ⟨⟩
        exact ⟨rfl, rfl⟩
      · rintro ⟨-, rfl⟩
        exact .reference target traits
  | object properties overrides traits =>
      constructor
      · rintro ⟨⟩
        exact ⟨rfl, rfl⟩
      · rintro ⟨-, rfl⟩
        exact .object properties overrides traits

theorem leafFailure?_eq_some_iff {address : ColumnAddress} {n : Node} {failure : Failure} :
    n.leafFailure? address = some failure ↔
      (∃ traits, n = .bareList traits) ∧ failure = .missingItems address.name ∨
      ∃ members traits, n = .enumeration members traits ∧ ¬ Admits traits ∧
        failure = .enumBase address.name
          (if traits.type.getD "" = "" then "none" else traits.type.getD "") := by
  constructor
  · intro h
    cases n with
    | bareList traits => exact .inl ⟨⟨traits, rfl⟩, (Option.some.inj h).symm⟩
    | enumeration members traits =>
        by_cases hadmits : Admits traits
        · rw [leafFailure?, if_pos hadmits] at h
          exact absurd h (by simp)
        · rw [leafFailure?, if_neg hadmits] at h
          exact .inr ⟨members, traits, rfl, hadmits, (Option.some.inj h).symm⟩
    | _ => exact absurd h (by simp [leafFailure?])
  · rintro (⟨⟨traits, rfl⟩, rfl⟩ | ⟨members, traits, rfl, hadmits, rfl⟩)
    · rfl
    · exact if_neg hadmits

/--
**The type of a node is the one that its leaf has in the table, with a mark for every list.**
-/
theorem sqlType_exact (address : ColumnAddress) (n : Node) (log : Log) :
    (∀ failure, ((n.sqlType address).from log).1 = .error failure ↔
      (∃ traits, n.leaf = .bareList traits) ∧ failure = .missingItems address.name ∨
      ∃ members traits, n.leaf = .enumeration members traits ∧ ¬ Admits traits ∧
        failure = .enumBase address.name
          (if traits.type.getD "" = "" then "none" else traits.type.getD "")) ∧
    (∀ type, ((n.sqlType address).from log).1 = .ok type ↔
      ∃ base, n.leaf.Resolves address base ∧ type = base ++ marks n.depth) ∧
    ((n.sqlType address).from log).2
      = log ++ (n.unknownFormat?.map (unknownFormatWarning address)).toList ∧
    ∀ format, n.unknownFormat? = some format ↔ n.leaf.Unreadable format := by
  rw [n.sqlType_gives address log]
  refine ⟨?_, ?_, ?_, ?_⟩
  · intro failure
    rw [barring_eq_error_iff]
    exact leafFailure?_eq_some_iff
  · intro type
    rw [barring_eq_ok_iff]
    constructor
    · rintro ⟨hfailure, rfl⟩
      exact ⟨_, resolves_leaf_iff.mpr ⟨hfailure, rfl⟩, rfl⟩
    · rintro ⟨base, hbase, rfl⟩
      obtain ⟨hfailure, rfl⟩ := resolves_leaf_iff.mp hbase
      exact ⟨hfailure, rfl⟩
  · rw [typeWarnings_eq]
  · intro format
    have hleaf : n.leaf.unknownFormat? = n.unknownFormat? := by
      rw [unknownFormat?, leaf_leaf]
      rfl
    rw [← hleaf, unknownFormat?_eq_some_iff]

end Node

end Tablewright
