import LookupEnums.Source.TypeName
import LookupEnums.Text.Cut
import LookupEnums.TypeEnv.Basic

/-! # Qualified names

How a type is written inside another: by its short name where its namespace encloses the other
type, and in full elsewhere. -/

namespace LookupEnums.Source
open Text

/-- The name of `referenced` as written inside `referencing`. -/
def qualifyType (referenced referencing : String) : String :=
  let space := namespaceOf referenced
  if !space.isEmpty && (space.toList ++ ['.']).isPrefixOf referencing.toList then
    shortName referenced
  else referenced

def qualify (referenced referencing member : String) : String :=
  qualifyType referenced referencing ++ "." ++ member

def returnName (returns : TypeNode) (owner : String) : String :=
  if returns.isInternal then qualifyType returns.name owner else returns.name

end LookupEnums.Source
