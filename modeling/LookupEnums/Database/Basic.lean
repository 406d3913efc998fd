import LookupEnums.Database.Relation
import LookupEnums.Database.Stored

/-! # Databases

What a database holds: tables as they are stored, views on them, and other things of which only the
names are known. A selection may look at relations that it was given besides. -/

namespace LookupEnums
open Sql

structure Database where
  tables : List StoredTable := []
  views : List View := []
  /-- The names of what is there but cannot be read. -/
  unreadable : List String := []
  /-- Relations that have been read before, by their names. -/
  given : List (String × Relation) := []

namespace Database

def table? (db : Database) (name : String) : Option StoredTable :=
  db.tables.find? (·.isNamed name)

def view? (db : Database) (name : String) : Option View :=
  db.views.find? fun v => sameName v.name name

def given? (db : Database) (name : String) : Option Relation :=
  (db.given.find? fun g => sameName g.1 name).map (·.2)

def contains (db : Database) (name : String) : Bool :=
  (db.table? name).isSome || (db.view? name).isSome || db.unreadable.any (sameName name)

def withViews (db : Database) (views : List View) : Database :=
  let isHidden (name : String) : Bool := views.any fun v => sameName v.name name
  { db with
    views := views ++ db.views
    tables := db.tables.filter fun t => !isHidden t.name
    given := db.given.filter fun g => !isHidden g.1 }

def withGiven (db : Database) (name : String) (r : Relation) : Database :=
  { db with given := (name, r) :: db.given }

end Database

end LookupEnums
