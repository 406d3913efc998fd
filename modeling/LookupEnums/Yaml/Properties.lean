import LookupEnums.Text.Digits
import LookupEnums.Yaml.Token

/-! # Anchors, tags and directives -/

namespace LookupEnums.Yaml
open Text

def isWordChar (ch : Char) : Bool :=
  ch.isAlphanum || ch == '-' || ch == '_'

def anchorName (c : Cursor) : Read (String × Cursor) :=
  let (name, c) := c.step.takeWhile isWordChar
  let ends := endsToken c.here || c.here.any fun ch => "?:,]\x7d%@\x60".toList.contains ch
  if name.isEmpty || !ends then .error .malformed else .ok (String.ofList name, c)

def isUriChar (ch : Char) : Bool :=
  ch.isAlphanum || "-;/?:@&=+$,_.!~*'()[]".toList.contains ch

def percentBytes? : List Char → Option (List UInt8 × Nat)
  | '%' :: a :: b :: r => do
    let n ← readHex? [a, b]
    let (bytes, count) ← percentBytes? r
    return (UInt8.ofNat n :: bytes, count + 3)
  | '%' :: _ => none
  | _ => some ([], 0)

def uriFrom : (fuel : Nat) → Cursor → Read (List Char × Cursor)
  | 0, _ => .error .malformed
  | fuel + 1, c => do
    let (front, c) := c.takeWhile isUriChar
    if c.here = some '%' then
      match percentBytes? c.rest with
      | none => throw .malformed
      | some (bytes, n) =>
        match String.fromUTF8? ⟨bytes.toArray⟩ with
        | none => throw .malformed
        | some s =>
          let (more, c) ← uriFrom fuel (c.forward n)
          return (front ++ s.toList ++ more, c)
    else return (front, c)

def uri (c : Cursor) : Read (String × Cursor) := do
  let start := c.index
  let (s, c) ← uriFrom c.room c
  if c.index = start then throw .malformed else return (String.ofList s, c)

def tagHandle (c : Cursor) : Read (String × Cursor) :=
  if c.here ≠ some '!' then .error .malformed
  else if c.peek 1 = some ' ' then .ok ("!", c.step)
  else
    let (name, rest) := c.step.takeWhile isWordChar
    if rest.here = some '!' then .ok (String.ofList ('!' :: name ++ ['!']), rest.step)
    else .error .malformed

/-- Whether a second `!` closes a handle before the next blank. -/
def hasHandle (c : Cursor) : Bool :=
  (c.step.rest.takeWhile fun ch => !(isBreak ch || ch == ' ')).contains '!'

def tagName (c : Cursor) : Read (TagName × Cursor) := do
  let (t, c) ←
    if c.peek 1 = some '<' then do
      let (name, c) ← uri (c.forward 2)
      if c.here ≠ some '>' then throw .malformed
      pure ((⟨none, name⟩ : TagName), c.step)
    else if endsToken (c.peek 1) then pure (⟨none, "!"⟩, c.step)
    else do
      let (handle, c) ← if hasHandle c then tagHandle c else pure ("!", c.step)
      let (name, c) ← uri c
      pure (⟨some handle, name⟩, c)
  if endsWord c.here then return (t, c) else throw .malformed

def directiveNumber (c : Cursor) : Read (Nat × Cursor) :=
  let (digits, c) := c.takeWhile Char.isDigit
  match readDecimal? digits with
  | some n => .ok (n, c)
  | none => .error .malformed

def versionValue (c : Cursor) : Read (Directive × Cursor) := do
  let (major, c) ← directiveNumber c.skipBlanks
  if c.here ≠ some '.' then throw .malformed
  let (minor, c) ← directiveNumber c.step
  if endsWord c.here then return (.version major minor, c) else throw .malformed

def tagValue (c : Cursor) : Read (Directive × Cursor) := do
  let (handle, c) ← tagHandle c.skipBlanks
  if c.here ≠ some ' ' then throw .malformed
  let (replacement, c) ← uri c.skipBlanks
  if endsWord c.here then return (.tag handle replacement, c) else throw .malformed

def directiveLine (c : Cursor) : Read (Directive × Cursor) := do
  let (name, c) := c.step.takeWhile isWordChar
  if name.isEmpty || !endsWord c.here then throw .malformed
  let (d, c) ←
    if name = "YAML".toList then versionValue c
    else if name = "TAG".toList then tagValue c
    else pure (.other, c.skipLine)
  let c := c.skipBlanks
  let c := if c.here = some '#' then c.skipLine else c
  if endsLine c.here then return (d, c.skipBreak) else throw .malformed

end LookupEnums.Yaml
