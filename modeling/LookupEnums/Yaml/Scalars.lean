import LookupEnums.Text.Digits
import LookupEnums.Yaml.Token

/-! # Reading scalars

Quoted scalars with their escapes and folded lines, plain scalars, and block scalars. -/

namespace LookupEnums.Yaml
open Text

def quotedBreaks : (fuel : Nat) → Cursor → Read (List Char × Cursor)
  | 0, _ => .error .malformed
  | fuel + 1, c =>
    if c.atSeparator then .error .malformed
    else
      let c := c.skipWhile fun ch => ch == ' ' || ch == '\t'
      match c.takeBreak? with
      | none => .ok ([], c)
      | some (b, c) => (quotedBreaks fuel c).map fun (bs, c) => (b :: bs, c)

/-- A single line feed folds into a blank; further breaks stay. -/
def foldBreak (b : Char) (breaks : List Char) : List Char :=
  if b ≠ '\n' then b :: breaks else if breaks.isEmpty then [' '] else breaks

def quotedSpaces (c : Cursor) : Read (List Char × Cursor) := do
  let (blanks, c) := c.takeWhile fun ch => ch == ' ' || ch == '\t'
  match c.here with
  | none => throw .malformed
  | some _ =>
    match c.takeBreak? with
    | none => return (blanks, c)
    | some (b, c) =>
      let (breaks, c) ← quotedBreaks c.room c
      return (foldBreak b breaks, c)

def escapes : List (Char × Char) :=
  [('0', '\x00'), ('a', '\x07'), ('b', '\x08'), ('t', '\t'), ('\t', '\t'), ('n', '\n'), ('v', '\x0b'),
    ('f', '\x0c'), ('r', '\r'), ('e', '\x1b'), (' ', ' '), ('"', '"'), ('\\', '\\'), ('/', '/'),
    ('N', '\x85'), ('_', '\xa0'), ('L', '\u2028'), ('P', '\u2029')]

def escapeLength? (ch : Char) : Option Nat :=
  [('x', 2), ('u', 4), ('U', 8)].lookup ch

def escaped (c : Cursor) : Read (List Char × Cursor) :=
  match c.here with
  | none => .error .malformed
  | some ch =>
    match escapes.lookup ch, escapeLength? ch with
    | some r, _ => .ok ([r], c.step)
    | none, some n =>
      let c := c.step
      let digits := c.rest.take n
      match readHex? digits with
      | none => .error .malformed
      | some code =>
        if digits.length < n then .error .malformed
        else if 0x10ffff < code then .error .badValue
        else .ok ([Char.ofNat code], c.forward n)
    | none, none =>
      match c.takeBreak? with
      | none => .error .malformed
      | some (_, c) => quotedBreaks c.room c

def isQuotedText (ch : Char) : Bool :=
  ch != '\'' && ch != '"' && ch != '\\' && ch != ' ' && ch != '\t' && !isBreak ch

def quotedFrom (mark : Char) : (fuel : Nat) → Cursor → Read (List Char × Cursor)
  | 0, _ => .error .malformed
  | fuel + 1, c => do
    let (front, c) := c.takeWhile isQuotedText
    let more (s : List Char) (c : Cursor) : Read (List Char × Cursor) :=
      (quotedFrom mark fuel c).map fun (t, c) => (front ++ s ++ t, c)
    match c.rest with
    | [] => throw .malformed
    | ch :: next =>
      if ch = mark then
        if mark = '\'' && next.head? = some '\'' then more ['\''] (c.forward 2)
        else return (front, c.step)
      else if ch = '\\' && mark = '"' then
        let (s, c) ← escaped c.step
        more s c
      else if ch = '\'' || ch = '"' || ch = '\\' then more [ch] c.step
      else
        let (s, c) ← quotedSpaces c
        more s c

def quotedScalar (mark : Char) (c : Cursor) : Read (Token × Cursor) := do
  let (s, c) ← quotedFrom mark c.room c.step
  return (.scalar (String.ofList s) false, c)

def endsPlain (inFlow : Bool) (ch : Char) (next : Option Char) : Bool :=
  endsToken (some ch)
    || (ch == ':' && (endsToken next || (inFlow && next.any fun n => ",[]\x7b\x7d".toList.contains n)))
    || (inFlow && ",?[]\x7b\x7d".toList.contains ch)

def plainFront (inFlow : Bool) : List Char → List Char
  | [] => []
  | ch :: r => if endsPlain inFlow ch r.head? then [] else ch :: plainFront inFlow r

/-- Further breaks after the first of a plain scalar. `none` stands for the end of a document. -/
def plainBreaks : (fuel : Nat) → Cursor → Option (List Char) × Cursor
  | 0, c => (some [], c)
  | fuel + 1, c =>
    if c.here = some ' ' then plainBreaks fuel c.step
    else match c.takeBreak? with
      | none => (some [], c)
      | some (b, c) =>
        if c.atSeparator then (none, c)
        else
          let (bs, c) := plainBreaks fuel c
          (bs.map (b :: ·), c)

/-- Blanks behind a part of a plain scalar, whether a line ended in them, and the position after
them; no text if nothing can follow. -/
def plainSpaces (c : Cursor) : List Char × Bool × Cursor :=
  let (blanks, c) := c.takeWhile (· = ' ')
  match c.takeBreak? with
  | none => (blanks, false, c)
  | some (b, c) =>
    if c.atSeparator then ([], true, c)
    else
      let (breaks, c) := plainBreaks c.room c
      match breaks with
      | none => ([], true, c)
      | some breaks => (foldBreak b breaks, true, c)

structure PlainResult where
  content : List Char
  /-- The last blanks held a line end, so that a key may start. -/
  lineEnded : Bool
  cursor : Cursor

def plainFrom (inFlow : Bool) (indent : Int) :
    (fuel : Nat) → (spaces : List Char) → (lineEnded : Bool) → Cursor → PlainResult
  | 0, _, lineEnded, c => ⟨[], lineEnded, c⟩
  | fuel + 1, spaces, lineEnded, c =>
    let front := if c.here = some '#' then [] else plainFront inFlow c.rest
    if front.isEmpty then ⟨[], lineEnded, c⟩
    else
      let (next, ended, c) := plainSpaces (c.forward front.length)
      if next.isEmpty || c.here = some '#' || (!inFlow && (c.column : Int) < indent) then
        ⟨spaces ++ front, ended, c⟩
      else
        let r := plainFrom inFlow indent fuel next ended c
        { r with content := spaces ++ front ++ r.content }

/-- What follows the last line of a block scalar: nothing, one break, or all of them. -/
inductive Chomping
  | strip
  | clip
  | keep
  deriving DecidableEq, Repr

def chompingOf? : Option Char → Option Chomping
  | some '+' => some .keep
  | some '-' => some .strip
  | _ => none

/-- An explicit indentation; zero is none. -/
def incrementOf : Option Char → Read (Option Nat)
  | some ch =>
    match digitValue? ch with
    | some 0 => .error .malformed
    | d => .ok d
  | none => .ok none

def blockHead (c : Cursor) : Read (Chomping × Option Nat × Cursor) := do
  match chompingOf? c.here with
  | some chomping =>
    let c := c.step
    match ← incrementOf c.here with
    | some n => return (chomping, some n, c.step)
    | none => return (chomping, none, c)
  | none =>
    match ← incrementOf c.here with
    | none => return (.clip, none, c)
    | some n =>
      let c := c.step
      match chompingOf? c.here with
      | some chomping => return (chomping, some n, c.step)
      | none => return (.clip, some n, c)

def ignoredLine (c : Cursor) : Read Cursor :=
  let c := c.skipBlanks
  let c := if c.here = some '#' then c.skipLine else c
  if endsLine c.here then .ok c.skipBreak else .error .malformed

/-- Leading breaks of a block scalar, and the deepest column reached among them. -/
def blockIndentation : (fuel : Nat) → (deepest : Nat) → Cursor → List Char × Nat × Cursor
  | 0, deepest, c => ([], deepest, c)
  | fuel + 1, deepest, c =>
    if c.here = some ' ' then
      let c := c.step
      blockIndentation fuel (max deepest c.column) c
    else match c.takeBreak? with
      | none => ([], deepest, c)
      | some (b, c) =>
        let (bs, deepest, c) := blockIndentation fuel deepest c
        (b :: bs, deepest, c)

def skipIndent (indent : Nat) (c : Cursor) : Cursor :=
  let blanks := (c.rest.takeWhile (· = ' ')).length
  c.forward (min blanks (indent - c.column))

def blockBreaks (indent : Nat) : (fuel : Nat) → Cursor → List Char × Cursor
  | 0, c => ([], c)
  | fuel + 1, c =>
    let c := skipIndent indent c
    match c.takeBreak? with
    | none => ([], c)
    | some (b, c) =>
      let (bs, c) := blockBreaks indent fuel c
      (b :: bs, c)

def startsBlank (c : Cursor) : Bool :=
  c.here = some ' ' || c.here = some '\t'

def blockLines (folded : Bool) (indent : Nat) (chomping : Chomping) :
    (fuel : Nat) → (breaks : List Char) → Cursor → List Char × Cursor
  | 0, _, c => ([], c)
  | fuel + 1, breaks, c =>
    let atText (c : Cursor) : Bool := c.column = indent && c.here.isSome
    if !atText c then (if chomping = .keep then breaks else [], c)
    else
      let textFirst := !startsBlank c
      let (line, c) := c.takeWhile fun ch => !isBreak ch
      let lineBreak := (c.takeBreak?.map fun (b, _) => [b]).getD []
      let (next, c) := blockBreaks indent c.room c.skipBreak
      if atText c then
        let joint :=
          if folded && lineBreak = ['\n'] && textFirst && !startsBlank c then
            (if next.isEmpty then [' '] else [])
          else lineBreak
        let (more, c) := blockLines folded indent chomping fuel next c
        (breaks ++ line ++ joint ++ more, c)
      else
        let tail := match chomping with
          | .strip => []
          | .clip => lineBreak
          | .keep => lineBreak ++ next
        (breaks ++ line ++ tail, c)

def blockScalar (folded : Bool) (indent : Int) (c : Cursor) : Read (Token × Cursor) := do
  let (chomping, increment, c) ← blockHead c.step
  if !endsWord c.here then throw .malformed
  let c ← ignoredLine c
  let least : Nat := max 1 (indent + 1).toNat
  let (breaks, indent, c) := match increment with
    | none =>
      let (breaks, deepest, c) := blockIndentation c.room 0 c
      (breaks, max least deepest, c)
    | some n =>
      let indent := least + n - 1
      let (breaks, c) := blockBreaks indent c.room c
      (breaks, indent, c)
  let (s, c) := blockLines folded indent chomping c.room breaks c
  return (.scalar (String.ofList s) false, c)

end LookupEnums.Yaml
