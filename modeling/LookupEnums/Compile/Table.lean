import LookupEnums.Compile.Session
import LookupEnums.Mapping.Basic
import LookupEnums.Name.Identifier
import LookupEnums.Source.Literal
import LookupEnums.TypeEnv.Member
import LookupEnums.TypeEnv.Qualified

/-! # Compiling one table

A table is declared, its type and an accessor for each mapped column, and then filled: a member
for each row, and for each row and accessor a case. What an accessor returns is settled between
the two, which compiles the table it refers to first. -/

namespace LookupEnums
open Source

namespace TableData

def requireStorage (d : TableData) (column : String) : Except CompileError StorageType :=
  match d.storageType? column with
  | some t => .ok t
  | none => .error (.schema (.unknownColumn d.table column))

end TableData

namespace TableMapping

def requireData (m : TableMapping) : Except CompileError TableData :=
  match m.data with
  | some d => .ok d
  | none => .error (.notLoaded m.table)

def typeId (m : TableMapping) : TypeId :=
  ⟨m.typeName, none⟩

def accessorId (m : TableMapping) (c : ColumnMapping) : AccessorId :=
  ⟨m.typeName, c.accessor⟩

/-- The plain key column of an integral type is read by a cast. -/
def isCoercion (m : TableMapping) (keyType : StorageType) (c : ColumnMapping) : Bool :=
  c.column = m.key && c.template.isNone && c.returns.isNone && keyType.isIntegral

end TableMapping

namespace ColumnMapping

def returnName (c : ColumnMapping) (storage : StorageType) : String :=
  c.returns.getD storage.name

end ColumnMapping

namespace Compile

def liftExcept : Except CompileError α → Compile α
  | .ok a => pure a
  | .error e => throw e

def declareColumn (m : TableMapping) (d : TableData) (keyType : StorageType) (c : ColumnMapping) :
    Compile Unit := do
  let storage ← liftExcept (d.requireStorage c.column)
  let name := c.returnName storage
  if name = m.typeName then throw (.cycle [m.typeName, m.typeName])
  modifyEnv (·.reference name)
  modifyEnv fun env => env.declare
    { id := m.accessorId c
      owner := m.typeId
      returns := env.nodeOf name
      coercion := m.isCoercion keyType c
      nullable := storage.nullable }

def defineType (m : TableMapping) : Compile Unit := do
  note (CompileEvent.ofDefine ((← env).stage? m.typeName) m.typeName)
  modifyEnv (·.define m.typeName m.attributes)

def declare (m : TableMapping) (d : TableData) : Compile Unit := do
  let keyType ← liftExcept (d.requireStorage m.key)
  defineType m
  modifyEnv (·.setKeyType m.typeId keyType.name)
  m.columns.forM (declareColumn m d keyType)

def labelText (label : Value) : String :=
  if label.isNull then "" else label.shownText

def memberOf (keyType : String) (row : Row) : Member :=
  { name := Name.normalize (labelText row.label)
    literal := literal row.key keyType
    raw := row.key
    keyType }

def addRow (m : TableMapping) (keyType : String) (row : Row) : Compile Unit := do
  let member := memberOf keyType row
  if member.name.isEmpty then throw (.emptyIdentifier m.typeName row.label)
  tryEnv (·.addMember m.typeId member row.label)

def settle (onDemand : String → Compile Unit) (id : AccessorId) : Compile Unit := do
  if let some a := (← env).accessor? id then
    onDemand a.returns.name
    if a.returns.stage = .unresolved then
      note (CompileEvent.ofResolve ((← env).stage? a.returns.name) a.returns.name)
    modifyEnv (·.settleReturn id)

/-- No case stands for null where the target holds none. -/
def refusesNull (target : TypeNode) : Bool :=
  target.isInternal || isValueKind target.name

def referredMember (env : TypeEnv) (target : TypeNode) (raw : Value) (referencedBy : String) :
    Except CompileError Member :=
  match env.enum? target.id with
  | some t => t.memberFor raw (t.keyType.getD "") (some referencedBy)
  | none => .error (.unresolvedKey target.name raw (some referencedBy))

def caseExpression (env : TypeEnv) (m : TableMapping) (c : ColumnMapping) (target : TypeNode)
    (raw : Value) : Except CompileError String :=
  if target.isInternal then
    (referredMember env target raw s!"{m.typeName}.{c.accessor}").map fun member =>
      c.render (qualify target.name m.typeName member.name)
  else .ok (c.render (literal raw target.name))

def addCase (m : TableMapping) (member : String) (row : Row) (c : ColumnMapping) :
    Compile Unit := do
  let env ← env
  if let some a := env.accessor? (m.accessorId c) then
    if !a.coercion then
      match row.cells.lookup c.column with
      | none => throw (.missingCell c.column)
      | some raw =>
        if raw.isNull && refusesNull a.returns then
          note [.noCase m.typeName member a.name a.returns.name]
        else
          let expression ← liftExcept (caseExpression env m c a.returns raw)
          modifyEnv (·.setCase a.id member expression)

def addCases (m : TableMapping) (keyType : String) (row : Row) : Compile Unit :=
  m.columns.forM (addCase m (memberOf keyType row).name row)

def fillDeclared (onDemand : String → Compile Unit) (m : TableMapping) (d : TableData) :
    Compile Unit := do
  let keyType ← liftExcept (d.requireStorage m.key)
  d.rows.forM (addRow m keyType.name)
  m.columns.forM fun c => settle onDemand (m.accessorId c)
  d.rows.forM (addCases m keyType.name)

def fill (onDemand : String → Compile Unit) (m : TableMapping) (d : TableData) : Compile Unit := do
  declare m d
  fillDeclared onDemand m d

end Compile

end LookupEnums
