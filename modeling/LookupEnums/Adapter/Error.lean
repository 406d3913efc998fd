import LookupEnums.Mapping.Problem
import LookupEnums.Text.Quoted

/-! # Why a database cannot be used

Each constructor is a cause and names the kind of the adapter it concerns. -/

namespace LookupEnums
open Text

inductive AdapterError
  | unknownKind (kind : String)
  | noDatabase
  | configuration (kind : String) (problems : List Problem)
  | notConnected (kind : String)
  | cannotConnect (kind : String)
  | fileNotFound (kind path : String)
  | cannotReadTable (kind table : String) (columns : List String)
  | queryFailed (kind query : String)
  deriving DecidableEq, Repr

namespace AdapterError

def problemText (p : Problem) : String :=
  (if p.place.isEmpty then "source" else p.placeText) ++ ": " ++ p.message

def queryText (table : String) (columns : List String) : String :=
  "SELECT " ++ ", ".intercalate columns ++ " FROM " ++ table

/-- The message. What a database adds to it is left out. -/
def message : AdapterError → String
  | unknownKind kind => s!"Unknown adapter type: {quotedString kind}"
  | noDatabase =>
    "No database configured. Add a 'source' to the mapping, pass --database-url or set "
      ++ "DBENUM_DATABASE_URL."
  | configuration kind problems =>
    s!"Invalid {kind} configuration: " ++ "; ".intercalate (problems.map problemText)
  | notConnected _ => "Not connected. Call connect() first."
  | cannotConnect _ => "Failed to connect to database"
  | fileNotFound _ path => s!"SQLite database not found: {path}"
  | cannotReadTable _ table _ => s!"Failed to read table {quotedString table}"
  | queryFailed _ _ => "Query execution failed"

end AdapterError

end LookupEnums
