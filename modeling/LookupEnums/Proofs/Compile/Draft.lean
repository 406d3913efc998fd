import LookupEnums.Proofs.Compile.Direct
import LookupEnums.Proofs.TypeEnv.Part

/-! # Drafts

How far a table is compiled, as data: the columns declared and the rows added so far, and for each
column the stage of what it returns and its cases. The part of an environment that belongs to the
table is a function of its draft, and each step of the compilation changes the draft in one place.
-/
namespace LookupEnums
open Compile

structure Draft where
  columns : List ColumnMapping
  rows : List Row
  stage : ColumnMapping → Stage
  cases : ColumnMapping → List (String × String)

namespace TableData

def nullable (d : TableData) (c : ColumnMapping) : Bool :=
  ((d.storageType? c.column).map (·.nullable)).getD true

end TableData

namespace Draft
variable (m : TableMapping) (d : TableData) (keyType : StorageType)

def start : Draft := ⟨[], [], fun _ => .unresolved, fun _ => []⟩

def enum (w : Draft) : EnumType where
  id := m.typeId
  attributes := m.attributes
  keyType := some keyType.name
  members := w.rows.map (memberOf keyType.name)
  accessorNames := w.columns.map (·.accessor)

def accessor (w : Draft) (c : ColumnMapping) : Accessor where
  id := m.accessorId c
  owner := m.typeId
  returns := TypeEnv.nodeAt (w.stage c) (d.returnName c)
  coercion := m.coerces d c
  nullable := d.nullable c
  cases := w.cases c

def part (w : Draft) : TablePart :=
  ⟨some (w.enum m keyType), fun name =>
    (w.columns.find? (fun c => c.accessor = name)).map (w.accessor m d)⟩

def declareColumn (w : Draft) (c : ColumnMapping) (stage : Stage) : Draft :=
  { w with
    columns := w.columns ++ [c]
    stage := Function.update w.stage c stage
    cases := Function.update w.cases c [] }

def addRow (w : Draft) (row : Row) : Draft :=
  { w with rows := w.rows ++ [row] }

def settle (w : Draft) (c : ColumnMapping) (stage : Stage) : Draft :=
  { w with stage := Function.update w.stage c stage }

def addCase (w : Draft) (c : ColumnMapping) (member expression : String) : Draft :=
  { w with cases := Function.update w.cases c (w.cases c ++ [(member, expression)]) }

end Draft

def Plan.finalDraft (p : Plan) (m : TableMapping) (d : TableData) : Draft :=
  ⟨m.columns, d.rows, fun c => p.directStage (d.returnName c), p.directCases m d⟩

section find
variable {columns : List ColumnMapping} {c : ColumnMapping}

theorem find?_accessor_eq_none {name : String} :
    columns.find? (fun b => b.accessor = name) = none ↔ name ∉ columns.map (·.accessor) := by
  rw [List.find?_eq_none, List.mem_map]
  constructor
  · rintro h ⟨b, hb, rfl⟩
    simpa using h b hb
  · intro h b hb hname
    exact h ⟨b, hb, by simpa using hname⟩

end find

namespace Draft
variable {m : TableMapping} {d : TableData} {keyType : StorageType} {w v : Draft}

/-- Only the declared columns of a draft count. -/
theorem part_congr (hcolumns : w.columns = v.columns) (hrows : w.rows = v.rows)
    (hstage : ∀ c ∈ w.columns, w.stage c = v.stage c)
    (hcases : ∀ c ∈ w.columns, w.cases c = v.cases c) :
    w.part m d keyType = v.part m d keyType := by
  unfold part enum
  rw [hcolumns, hrows]
  congr 1
  funext name
  cases hf : v.columns.find? (fun c => c.accessor = name) with
  | none => rfl
  | some c =>
    have hc : c ∈ w.columns := hcolumns ▸ List.mem_of_find?_eq_some hf
    simp only [Option.map_some, accessor]
    rw [hstage c hc, hcases c hc]

theorem part_accessor_apply (name : String) : (w.part m d keyType).accessor name =
    (w.columns.find? (fun c => c.accessor = name)).map (w.accessor m d) := rfl

theorem part_accessor (hnodup : (w.columns.map (·.accessor)).Nodup) {c : ColumnMapping}
    (hc : c ∈ w.columns) : (w.part m d keyType).accessor c.accessor = some (w.accessor m d c) := by
  rw [part_accessor_apply, Keyed.find?_key hnodup hc]
  rfl

theorem part_accessor_eq_none {name : String} :
    (w.part m d keyType).accessor name = none ↔ name ∉ w.columns.map (·.accessor) := by
  rw [part_accessor_apply, Option.map_eq_none_iff, find?_accessor_eq_none]

/-- Changing one accessor of a draft. -/
theorem update_part_accessor (hnodup : (w.columns.map (·.accessor)).Nodup) {c : ColumnMapping}
    (hc : c ∈ w.columns) {a : Accessor} (hcolumns : v.columns = w.columns)
    (hsame : ∀ b ∈ w.columns, b ≠ c → v.accessor m d b = w.accessor m d b)
    (hchanged : v.accessor m d c = a) :
    Function.update (w.part m d keyType).accessor c.accessor (some a) =
      (v.part m d keyType).accessor := by
  funext name
  rw [part_accessor_apply, hcolumns]
  by_cases hn : name = c.accessor
  · subst hn
    rw [Function.update_self, Keyed.find?_key hnodup hc, Option.map_some, hchanged]
  · rw [Function.update_of_ne hn, part_accessor_apply]
    cases hf : w.columns.find? (fun b => b.accessor = name) with
    | none => rfl
    | some b =>
      have hb : b ∈ w.columns := List.mem_of_find?_eq_some hf
      have hname : b.accessor = name := by simpa using List.find?_some hf
      have hbc : b ≠ c := fun h => hn (h ▸ hname.symm)
      simp [hsame b hb hbc]

end Draft

end LookupEnums
