import LookupEnums.Adapter.Connection

/-! # Loading tables

The rows of mapped tables are read through one connection, one table after the other. Of each row
the key, the label and the mapped cells are kept. -/

namespace LookupEnums

namespace Loading

def cell (cells : List (String × Value)) (column : String) : Except CompileError Value :=
  match cells.lookup column with
  | some v => .ok v
  | none => .error (.missingCell column)

def mappedCell (cells : List (String × Value)) (c : ColumnMapping) :
    Except CompileError (String × Value) :=
  (cell cells c.column).map (c.column, ·)

def rowOf (m : TableMapping) (cells : List (String × Value)) : Except CompileError Row := do
  let key ← cell cells m.key
  let label ← cell cells m.label
  let mapped ← m.columns.mapM (mappedCell cells)
  return ⟨key, label, mapped⟩

def dataOf (m : TableMapping) (r : ResultSet) : Except CompileError TableData := do
  let rows ← r.rows.mapM (rowOf m)
  return ⟨m.table, r.columns, rows⟩

def logger : String := "dbenum.core.services.loader_service"

def load (a : Adapter) (m : TableMapping) : Run TableMapping := do
  let r ← a.fetch m.table m.queryColumns
  let data ← Run.lift .compile (dataOf m r)
  Run.note ⟨.info, logger, s!"Loaded {data.rows.length} row(s) from {m.table}"⟩
  return m.withData data

/-- Connects for as long as all tables are loaded in their order. -/
def loadAll (c : AdapterConfig) (ms : List TableMapping) : Run (List TableMapping) := do
  let a ← ({ config := c } : Adapter).connect
  ms.mapM (load a)

end Loading

end LookupEnums
