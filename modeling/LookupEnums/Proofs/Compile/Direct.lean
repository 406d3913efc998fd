import LookupEnums.Proofs.Compile.Reference
import Mathlib.Data.List.Dedup

/-! # What a plan means

The environment of a plan read off its tables directly, without an order of compilation: a member
for each row, and for each row and accessor at most one case, in which a cell of a column that
returns a mapped type is replaced by the member of the row it refers to.
-/
namespace LookupEnums
open Source

def Row.memberName (row : Row) : String :=
  Name.normalize (Compile.labelText row.label)

namespace TableData

def returnName (d : TableData) (c : ColumnMapping) : String :=
  ((d.storageType? c.column).map c.returnName).getD ""

theorem returnName_eq {d : TableData} {c : ColumnMapping} {storage : StorageType}
    (h : d.storageType? c.column = some storage) : d.returnName c = c.returnName storage := by
  simp [returnName, h]

end TableData

namespace TableMapping

def coerces (m : TableMapping) (d : TableData) (c : ColumnMapping) : Bool :=
  (d.storageType? m.key).any (m.isCoercion · c)

theorem coerces_eq {m : TableMapping} {d : TableData} {keyType : StorageType}
    (h : d.storageType? m.key = some keyType) (c : ColumnMapping) :
    m.coerces d c = m.isCoercion keyType c := by
  simp [coerces, h]

theorem returnName?_eq {m : TableMapping} {d : TableData} {c : ColumnMapping}
    (hdata : m.data = some d) (hstorage : (d.storageType? c.column).isSome) :
    m.returnName? c = some (d.returnName c) := by
  obtain ⟨storage, hs⟩ := Option.isSome_iff_exists.mp hstorage
  rw [TableData.returnName_eq hs]
  unfold returnName? ColumnMapping.returnName
  cases c.returns <;> simp [hdata, hs]

def directEnum? (m : TableMapping) : Option EnumType := do
  let d ← m.data
  let keyType ← d.storageType? m.key
  return {
    id := ⟨m.typeName, none⟩
    attributes := m.attributes
    keyType := some keyType.name
    members := d.rows.map fun row =>
      { name := row.memberName
        literal := literal row.key keyType.name
        raw := row.key
        keyType := keyType.name }
    accessorNames := m.columns.map (·.accessor) }

end TableMapping

namespace Plan
variable (p : Plan)

def rowsOf (name : String) : List Row :=
  (((p.mapping? name).bind (·.data)).map (·.rows)).getD []

def rowsUnder (name : String) (key : Value) : List Row :=
  (p.rowsOf name).filter (·.key.sameKey key)

/-- What an accessor returning `name` yields for a cell; nothing where null is refused. -/
def directExpression? (m : TableMapping) (c : ColumnMapping) (name : String) (raw : Value) :
    Option String :=
  if p.maps name then
    if raw.isNull then none
    else (p.rowsUnder name raw).head?.map fun target =>
      c.render (qualify name m.typeName target.memberName)
  else if raw.isNull && isValueKind name then none
  else some (c.render (literal raw name))

/-- The case of a row: its member and what the accessor yields for it. -/
def directCase? (m : TableMapping) (c : ColumnMapping) (name : String) (row : Row) :
    Option (String × String) :=
  (row.cells.lookup c.column).bind fun raw =>
    (p.directExpression? m c name raw).map (row.memberName, ·)

def casesOver (m : TableMapping) (d : TableData) (c : ColumnMapping) (rows : List Row) :
    List (String × String) :=
  if m.coerces d c then [] else rows.filterMap (p.directCase? m c (d.returnName c))

def directCases (m : TableMapping) (d : TableData) (c : ColumnMapping) : List (String × String) :=
  p.casesOver m d c d.rows

/-- A name is internal where a table is mapped to it and external elsewhere. -/
def directStage (name : String) : Stage :=
  if p.maps name then .internal else .external

def directAccessor? (m : TableMapping) (c : ColumnMapping) : Option Accessor := do
  let d ← m.data
  let storage ← d.storageType? c.column
  return {
    id := ⟨m.typeName, c.accessor⟩
    owner := ⟨m.typeName, none⟩
    returns := ⟨p.directStage (d.returnName c), ⟨d.returnName c, none⟩⟩
    coercion := m.coerces d c
    nullable := storage.nullable
    cases := p.directCases m d c }

def outsideNames : List String :=
  ((p.mappings.flatMap fun m => m.columns.filterMap m.returnName?).filter (!p.maps ·)).dedup

/-- The environment of a plan, up to the order in which names, types and accessors arrive. -/
def direct : TypeEnv where
  stages := p.typeNames.map (·, .internal) ++ p.outsideNames.map (·, .external)
  enums := p.mappings.filterMap (·.directEnum?)
  accessors := p.mappings.flatMap fun m => m.columns.filterMap (p.directAccessor? m)

/-- Two cars, one of them with a colour of another table. -/
def garage : Plan where
  mappings := [
    { table := "car"
      typeName := "Car"
      key := "id"
      label := "model"
      columns := [⟨"car", "paint", "Paint", none, some "Colour"⟩]
      attributes := []
      data := some ⟨"car", [("id", ⟨"int", false⟩), ("paint", ⟨"int", true⟩)],
        [⟨.int 1, .text "Mini", [("paint", .int 7)]⟩, ⟨.int 2, .text "Beetle", [("paint", .null)]⟩]⟩ },
    { table := "colour"
      typeName := "Colour"
      key := "id"
      label := "name"
      columns := []
      attributes := []
      data := some ⟨"colour", [("id", ⟨"int", false⟩)], [⟨.int 7, .text "red", []⟩]⟩ }]
  distinct := by decide

variable {p} {m : TableMapping} {d : TableData}

theorem directStage_eq_internal {name : String} :
    p.directStage name = .internal ↔ p.maps name = true := by
  unfold directStage
  split <;> simp_all

theorem refers_of_column (hm : m ∈ p.mappings) (hdata : m.data = some d) {c : ColumnMapping}
    (hc : c ∈ m.columns) (hstorage : (d.storageType? c.column).isSome)
    (hmaps : p.maps (d.returnName c) = true) : p.Refers m.typeName (d.returnName c) :=
  ⟨m, mapping?_typeName hm, hmaps, c, hc, TableMapping.returnName?_eq hdata hstorage⟩

theorem Refers.exists_column (hm : m ∈ p.mappings) (hdata : m.data = some d)
    (hcolumns : ∀ c ∈ m.columns, (d.storageType? c.column).isSome) {u : String}
    (h : p.Refers m.typeName u) : ∃ c ∈ m.columns, d.returnName c = u := by
  obtain ⟨m', hm', -, c, hc, hreturn⟩ := h
  rw [mapping?_typeName hm] at hm'
  obtain rfl := Option.some.inj hm'
  rw [TableMapping.returnName?_eq hdata (hcolumns c hc)] at hreturn
  exact ⟨c, hc, Option.some.inj hreturn⟩

theorem rowsOf_eq (hm : m ∈ p.mappings) (hd : m.data = some d) : p.rowsOf m.typeName = d.rows := by
  simp [rowsOf, mapping?_typeName hm, hd]

theorem rowsUnder_eq_nil {name : String} {key : Value} :
    p.rowsUnder name key = [] ↔ ∀ row ∈ p.rowsOf name, row.key.sameKey key = false := by
  simp [rowsUnder, List.filter_eq_nil_iff]

theorem casesOver_prefix {rows all : List Row} (h : rows <+: all) (c : ColumnMapping) :
    p.casesOver m d c rows <+: p.casesOver m d c all := by
  unfold casesOver
  split
  · exact List.prefix_refl _
  · exact h.filterMap _

end Plan

end LookupEnums
