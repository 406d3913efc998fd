import LookupEnums.Text.Cut
import LookupEnums.Text.LowerCase

/-! # Paths

A path in its short form: a root of no, one or exactly two slashes, and its parts without empty
ones and without `.`. A part `..` stays. -/

namespace LookupEnums
open Text

structure Path where
  root : String
  parts : List String
  deriving DecidableEq, Repr

namespace Path

def rootOf (s : List Char) : String :=
  match (s.takeWhile (· = '/')).length with
  | 0 => ""
  | 2 => "//"
  | _ => "/"

def ofText (s : String) : Path :=
  let parts := (pieces ['/'] s.toList).filter fun p => p ≠ [] && p ≠ ['.']
  ⟨rootOf s.toList, parts.map String.ofList⟩

def text (p : Path) : String :=
  if p.root.isEmpty && p.parts.isEmpty then "." else p.root ++ "/".intercalate p.parts

def isAbsolute (p : Path) : Bool :=
  !p.root.isEmpty

def parent (p : Path) : Path :=
  { p with parts := p.parts.dropLast }

def name (p : Path) : String :=
  p.parts.getLast?.getD ""

/-- The name from its last dot on, if the dot neither starts nor ends it. -/
def suffix (p : Path) : String :=
  let s := p.name.toList
  let (before, after) := cutLast '.' s
  if s.contains '.' && !before.isEmpty && !after.isEmpty then String.ofList ('.' :: after) else ""

def lowerSuffix (p : Path) : String :=
  String.ofList (lowered p.suffix.toList)

end Path

end LookupEnums
