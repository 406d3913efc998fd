import LookupEnums.Table

/-! # Column types

The families of column types a database tells apart, the storage type of each, and the names they
go by. -/

namespace LookupEnums

inductive ColumnType
  | boolean
  | smallInteger
  | bigInteger
  | integer
  /-- With places, its numbers are read as decimals. -/
  | float (places : Option Nat)
  | numeric (scale : Nat)
  | text
  | dateTime
  | date
  | time
  | interval
  | uuid
  | binary
  | json
  | unknown
  deriving DecidableEq, Repr

namespace ColumnType

def storageName : ColumnType → String
  | boolean => "bool"
  | smallInteger => "short"
  | bigInteger => "long"
  | integer => "int"
  | float _ => "double"
  | numeric _ => "decimal"
  | text => "string"
  | dateTime | date => "DateTime"
  | time | interval => "TimeSpan"
  | uuid => "Guid"
  | binary => "byte[]"
  | json | unknown => "object"

def storageType (t : ColumnType) (nullable : Bool) : StorageType :=
  ⟨t.storageName, nullable⟩

def defaultScale : Nat := 10

def families : List (ColumnType × List String) :=
  [(boolean, ["Boolean", "BOOLEAN", "MatchType"]),
    (smallInteger, ["SmallInteger", "SMALLINT"]),
    (bigInteger, ["BigInteger", "BIGINT"]),
    (integer, ["Integer", "INTEGER", "INT"]),
    (float none, ["Float", "FLOAT", "REAL", "Double", "DOUBLE", "DOUBLE_PRECISION"]),
    (numeric defaultScale, ["Numeric", "NUMERIC", "DECIMAL"]),
    (text, ["Enum", "String", "Text", "Unicode", "UnicodeText", "CHAR", "VARCHAR", "NCHAR",
      "NVARCHAR", "TEXT", "CLOB"]),
    (dateTime, ["DateTime", "DATETIME", "TIMESTAMP"]),
    (date, ["Date", "DATE"]),
    (time, ["Time", "TIME"]),
    (interval, ["Interval"]),
    (uuid, ["Uuid", "UUID"]),
    (binary, ["LargeBinary", "BLOB"]),
    (json, ["JSON"])]

def ofName (name : String) : ColumnType :=
  match families.find? fun f => f.2.contains name with
  | some f => f.1
  | none => unknown

end ColumnType

end LookupEnums
