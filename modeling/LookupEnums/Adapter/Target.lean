import LookupEnums.Adapter.Address
import LookupEnums.Files.Path
import LookupEnums.Text.LowerCase
import LookupEnums.Text.Quoted

/-! # Where an address leads

Only one driver is at hand. Its addresses name no user, host or port, and their options are checked
for values that fit. One of them says that the database is a file address, which takes over the
options that the driver does not know.

A file address, `file://localhost/path?options#rest`, names a file with the way it is opened. Characters
may stand as two digits in base sixteen behind a percent sign; the character zero ends the part it
stands in.
-/

namespace LookupEnums
open Text

inductive FileMode
  /-- Opens a file that is there. -/
  | existing
  /-- Makes a file that is missing. -/
  | create
  | memory
  deriving DecidableEq, Repr

inductive Target
  | memory
  | file (path : Path) (mode : FileMode)
  deriving DecidableEq, Repr

namespace Target

def ofName (name : String) : Target :=
  if name.isEmpty || name = ":memory:" then memory else file (Path.ofText name) .create

end Target

namespace FileAddress

def scheme : List Char := "file:".toList

def partBytes : List Char → List UInt8
  | '%' :: a :: b :: r =>
    match readHex? [a, b] with
    | some 0 => []
    | some n => UInt8.ofNat n :: partBytes r
    | none => (String.singleton '%').toUTF8.toList ++ partBytes (a :: b :: r)
  | c :: r => (String.singleton c).toUTF8.toList ++ partBytes r
  | [] => []

def part? (s : List Char) : Option String :=
  String.fromUTF8? ⟨(partBytes s).toArray⟩

/-- What follows the scheme without a server, which can only be this computer. -/
def withoutServer? (s : List Char) : Option (List Char) :=
  match s with
  | '/' :: '/' :: r =>
    let server := r.takeWhile (· ≠ '/')
    if server.isEmpty || server = "localhost".toList then some (r.drop server.length) else none
  | _ => some s

def options (s : List Char) : List (String × String) :=
  (pieces ['&'] s).filterMap fun piece =>
    let (name, value) := cutOrAll ['='] piece
    match part? name, part? value with
    | some name, some value => if name.isEmpty then none else some (name, value)
    | _, _ => none

def mode? : String → Option FileMode
  | "ro" | "rw" => some .existing
  | "rwc" => some .create
  | "memory" => some .memory
  | _ => none

def systems : List (String × Option FileMode) :=
  [("unix", none), ("unix-none", none), ("unix-dotfile", none), ("unix-excl", none),
    ("memdb", some .memory)]

/-- How the options say the file is opened, where the last one of a name counts; none if they hold a
value that is not known. -/
def modeOf? (options : List (String × String)) : Option FileMode := do
  let modes ← (options.filter (·.1 = "mode")).mapM fun o => mode? o.2
  if options.any fun o => o.1 = "cache" && o.2 ∉ ["shared", "private"] then none
  let system ← match (options.filter (·.1 = "vfs")).getLast? with
    | some o => systems.lookup o.2
    | none => some none
  return system.getD (modes.getLast?.getD .create)

/-- What a name leads to that may be a file address; none for an address that is refused. -/
def target? (name : String) : Option Target := do
  if !scheme.isPrefixOf name.toList then return Target.ofName name
  let s ← withoutServer? ((name.toList.drop scheme.length).takeWhile (· ≠ '#'))
  let (path, rest) := cutOrAll ['?'] s
  let mode ← modeOf? (options rest)
  match mode, Target.ofName (← part? path) with
  | .memory, _ | _, .memory => return .memory
  | mode, .file path _ => return .file path mode

end FileAddress

namespace Address

def drivers : List String := ["sqlite", "sqlite+pysqlite"]

def namesServer (a : Address) : Bool :=
  a.user.any (!·.isEmpty) || a.password.any (!·.isEmpty) || a.host.isSome || a.port.any (· ≠ 0)

def values (a : Address) (option : String) : List String :=
  (a.options.lookup option).getD []

def flag? (s : String) : Option Bool :=
  let w := String.ofList (lowered (strip s.toList))
  if ["true", "yes", "on", "y", "t", "1"].contains w then some true
  else if ["false", "no", "off", "n", "f", "0"].contains w then some false
  else none

def readFlag (a : Address) (option : String) : Except AddressError Bool :=
  match a.values option with
  | [] => .ok false
  | [s] => match flag? s with
    | some b => .ok b
    | none => .error .badOption
  | _ => .ok true

def checkOption (a : Address) (option : String) (fits : List Char → Bool) :
    Except AddressError Unit :=
  match a.values option with
  | [] => .ok ()
  | [s] => if fits s.toList then .ok () else .error .badOption
  | _ => .error .repeatedOption

def ownOptions : List String :=
  ["uri", "timeout", "isolation_level", "detect_types", "check_same_thread", "cached_statements"]

def checkOptions (a : Address) : Except AddressError Bool := do
  let isFileAddress ← a.readFlag "uri"
  a.checkOption "timeout" fun s => (Binary64.read? (strip s)).isSome
  a.checkOption "detect_types" fun s => (number? s).isSome
  let _ ← a.readFlag "check_same_thread"
  a.checkOption "cached_statements" fun s => (number? s).isSome
  return isFileAddress

def valueText : List String → String
  | [s] => s
  | list => "(" ++ ", ".intercalate (list.map quotedString) ++ ")"

def fileAddress (a : Address) (database : String) : String :=
  match a.options.filter fun o => !ownOptions.contains o.1 with
  | [] => database
  | left => database ++ "?" ++ "&".intercalate (left.map fun o => o.1 ++ "=" ++ valueText o.2)

def target? (a : Address) : Except AddressError (Option Target) := do
  if (a.values "plugin").length > 0 then return none
  if (pieces ['+'] a.driver.toList).length > 2 then throw .tooManyDrivers
  if !drivers.contains a.driver || a.namesServer then return none
  if !(← a.checkOptions) then return some (Target.ofName (a.database.getD ""))
  match a.database with
  | some database => return FileAddress.target? (a.fileAddress database)
  | none => throw .noDatabase

end Address

end LookupEnums
