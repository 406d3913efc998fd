import LookupEnums.TypeEnv.Qualified

/-! # Layout of the generated source

Enumerations are written grouped by namespace, in the order the namespaces first appear, each
followed by a class of its accessors. A line is a depth and a text; an empty text has no
indentation. -/

namespace LookupEnums.Source

structure Line where
  depth : Nat
  text : String
  deriving DecidableEq, Repr

namespace Line

def blank : Line := ⟨0, ""⟩

def render (unit : Nat) (l : Line) : List Char :=
  if l.text.isEmpty then [] else List.replicate (unit * l.depth) ' ' ++ l.text.toList

end Line

def braced (depth : Nat) (body : List Line) : List Line :=
  ⟨depth, "\x7b"⟩ :: body ++ [⟨depth, "\x7d"⟩]

def spaced : List (List Line) → List Line
  | [] => []
  | [block] => block
  | block :: rest => block ++ Line.blank :: spaced rest

def version : String := "0.1.0"

def header : List Line :=
  [⟨0, "// <auto-generated>"⟩,
    ⟨0, s!"//     Generated by dbenum {version}."⟩,
    ⟨0, "//     Changes to this file will be lost when the code is regenerated."⟩,
    ⟨0, "// </auto-generated>"⟩,
    Line.blank,
    ⟨0, "using System;"⟩,
    Line.blank]

def attributeText (given : String) : String :=
  if given.toList.head? = some '[' then given else "[" ++ given ++ "]"

/-- The underlying type is written where it is integral and not the default. -/
def enumHead (t : EnumType) : String :=
  let keyType := t.keyType.getD ""
  let head := "public enum " ++ shortName t.name
  if isIntegral keyType && keyType ≠ "int" then head ++ " : " ++ keyType else head

/-- Whether the members are given their keys as constants; a type without a known key counts as
integral. -/
def hasConstants (t : EnumType) : Bool :=
  match t.keyType with
  | none | some "" => true
  | some keyType => isIntegral keyType

/-- A member with its key: as its constant, or in a comment where a key cannot be one. -/
def memberText (t : EnumType) (m : Member) : String :=
  if hasConstants t then m.name ++ " = " ++ m.literal ++ "," else m.name ++ ", // " ++ m.literal

def enumLines (depth : Nat) (t : EnumType) : List Line :=
  t.attributes.map (fun a => ⟨depth, attributeText a⟩)
    ++ ⟨depth, enumHead t⟩ :: braced depth (t.members.map fun m => ⟨depth + 1, memberText t m⟩)

def caseText (owner : String) (c : String × String) : String :=
  "case " ++ shortName owner ++ "." ++ c.1 ++ ": return " ++ c.2 ++ ";"

def defaultText (owner : String) : String :=
  "default: throw new ArgumentOutOfRangeException(nameof(value), value, \"Invalid "
    ++ shortName owner ++ " value\");"

def accessorHead (a : Accessor) : String :=
  "public static " ++ returnName a.returns a.owner.name ++ " " ++ a.name ++ "(this "
    ++ shortName a.owner.name ++ " value)"

def accessorBody (depth : Nat) (a : Accessor) : List Line :=
  if a.coercion then [⟨depth, "return (" ++ returnName a.returns a.owner.name ++ ")value;"⟩]
  else
    ⟨depth, "switch (value)"⟩ :: braced depth
      (a.cases.map (fun c => ⟨depth + 1, caseText a.owner.name c⟩)
        ++ [⟨depth + 1, defaultText a.owner.name⟩])

def accessorLines (depth : Nat) (a : Accessor) : List Line :=
  ⟨depth, accessorHead a⟩ :: braced depth (accessorBody (depth + 1) a)

def extensionName (t : EnumType) : String :=
  shortName t.name ++ "Extensions"

def extensionLines (depth : Nat) (t : EnumType) : List Accessor → List Line
  | [] => []
  | accessors =>
    Line.blank :: ⟨depth, "public static class " ++ extensionName t⟩ ::
      braced depth (spaced (accessors.map (accessorLines (depth + 1))))

def typeLines (env : TypeEnv) (depth : Nat) (t : EnumType) : List Line :=
  enumLines depth t ++ extensionLines depth t (env.accessorsOf t)

def namespaces (types : List EnumType) : List String :=
  (types.map fun t => namespaceOf t.name).eraseDups

def typesIn (space : String) (types : List EnumType) : List EnumType :=
  types.filter fun t => namespaceOf t.name = space

/-- The types of one namespace; those of no namespace stand at the outermost level. -/
def namespaceLines (env : TypeEnv) (space : String) (types : List EnumType) : List Line :=
  if space.isEmpty then spaced (types.map (typeLines env 0)) ++ [Line.blank]
  else
    ⟨0, "namespace " ++ space⟩ :: braced 0 (spaced (types.map (typeLines env 1))) ++ [Line.blank]

def sourceLines (env : TypeEnv) : List Line :=
  let types := env.internalTypes
  header ++ (namespaces types).flatMap fun space => namespaceLines env space (typesIn space types)

def trimLineFeeds (s : List Char) : List Char :=
  (s.reverse.dropWhile (· = '\n')).reverse

def render (unit : Nat) (env : TypeEnv) : String :=
  String.ofList
    (trimLineFeeds (['\n'].intercalate ((sourceLines env).map (·.render unit))) ++ ['\n'])

end LookupEnums.Source
