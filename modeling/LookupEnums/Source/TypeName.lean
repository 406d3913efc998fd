import LookupEnums.Text.Cut

/-! # Names of target types

Value kinds hold no null; integral kinds may underlie an enumeration. Both are read off the
name. -/

namespace LookupEnums.Source
open Text

def valueKinds : List String :=
  ["bool", "byte", "sbyte", "char", "short", "ushort", "int", "uint", "long", "ulong", "float",
    "double", "decimal", "Boolean", "Byte", "SByte", "Char", "Int16", "UInt16", "Int32", "UInt32",
    "Int64", "UInt64", "Single", "Double", "Decimal", "DateTime", "DateTimeOffset", "DateOnly",
    "TimeOnly", "TimeSpan", "Guid"]

def integralKinds : List String :=
  ["byte", "sbyte", "short", "ushort", "int", "uint", "long", "ulong"]

def namespaceOf (name : String) : String :=
  String.ofList (cutLast '.' name.toList).1

def shortName (name : String) : String :=
  String.ofList (cutLast '.' name.toList).2

/-- A name of a type that holds no null. A trailing `?` or a `Nullable` wrapper admits null, and a
namespace in front changes nothing. -/
def isValueKind (name : String) : Bool :=
  let s := name.toList
  if s.getLast? = some '?' || "Nullable<".toList.isPrefixOf s then false
  else valueKinds.contains (shortName name)

def isIntegral (name : String) : Bool :=
  integralKinds.contains name

end LookupEnums.Source
