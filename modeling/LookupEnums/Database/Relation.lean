import LookupEnums.Database.Affinity
import LookupEnums.Sql.Expr

/-! # Relations

What is read from a database under a name, or by a selection: columns and rows.

Of a column it is known how its data are stored and compared, and of a declared one also what it holds
where nothing is stored.
-/

namespace LookupEnums

structure Column where
  name : String
  /-- The declared type as it was written. -/
  declared : Option String := none
  affinity : Affinity := .ofDeclared declared
  /-- Whether it shows an expression that has no affinity. -/
  isBare : Bool := false
  collation : Collation := .exact
  notNull : Bool := false

/-- What the data of a column are computed from, if they are, and whether they are stored too. -/
structure Computation where
  expr : Sql.Expr
  isStored : Bool

structure DeclaredColumn extends Column where
  key : Bool := false
  /-- Whether the column is the row number itself. -/
  isRowNumber : Bool := false
  default : Datum := .null
  computed : Option Computation := none

namespace DeclaredColumn

def isStored (c : DeclaredColumn) : Bool :=
  (c.computed.map (·.isStored)).getD true

end DeclaredColumn

structure Relation where
  columns : List Column
  rows : List (List Datum)
  /-- Whether the rows could be read to the end. -/
  isWhole : Bool := true

namespace Relation

/-- What is read from the relation by its columns: a whole number is a real where reals are meant, as
parts that are combined may disagree on that. -/
def settled (r : Relation) : Relation :=
  { r with rows := r.rows.map fun data => (r.columns.zip data).map fun (c, d) =>
      match d with
      | .int i => if c.affinity = .real then .real (.ofInt i) else .int i
      | d => d }

end Relation

end LookupEnums
