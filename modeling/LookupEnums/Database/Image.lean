import LookupEnums.Number.Binary64
import LookupEnums.Text.Encoding

/-! # Images of databases

A database file falls into pages of one size, counted from one. A table is a tree of pages: inner
pages point to others in order, and leaves hold the records of its rows with their numbers. A table
without row numbers has records in its inner pages too. A record that does not fit into its page
goes on in a chain of further pages. All numbers have their highest byte first. -/

namespace LookupEnums

structure Image where
  bytes : ByteArray
  pageSize : Nat
  /-- The bytes of a page that hold data. -/
  usable : Nat
  encoding : Text.Encoding

namespace Image

def byte? (b : ByteArray) (n : Nat) : Option Nat :=
  (b.data[n]?).map UInt8.toNat

def number? (b : ByteArray) (start count : Nat) : Option Nat :=
  (List.range count).foldlM (fun n k => (byte? b (start + k)).map fun d => n * 256 + d) 0

/-- Seven bits of each byte while its highest bit is set, and all bits of a ninth byte; with the
number comes the place behind it. -/
def compactFrom? (b : ByteArray) : (left value start : Nat) → Option (Nat × Nat)
  | 0, value, start => (byte? b start).map fun d => (value * 256 + d, start + 1)
  | left + 1, value, start =>
    match byte? b start with
    | none => none
    | some d =>
      if d < 128 then some (value * 128 + d, start + 1)
      else compactFrom? b left (value * 128 + (d - 128)) (start + 1)

def compact? (b : ByteArray) (start : Nat) : Option (Nat × Nat) :=
  compactFrom? b 8 0 start

def signed (bits n : Nat) : Int :=
  if n < Nat.pow 2 (bits - 1) then n else (n : Int) - Int.pow 2 bits

def magic : ByteArray :=
  "SQLite format 3\x00".toUTF8

def headerSize : Nat := 100

def encoding? : Nat → Option Text.Encoding
  | 0 | 1 => some .bytes
  | 2 => some (.pairs true)
  | 3 => some (.pairs false)
  | _ => none

def isPowerOfTwo (n : Nat) : Bool :=
  n == Nat.pow 2 n.log2

/-- How many pages the file says it has, if what it says is up to date. -/
def pageCount? (b : ByteArray) : Option Nat := do
  let count ← number? b 28 4
  let changes ← number? b 24 4
  let validFor ← number? b 92 4
  if count ≠ 0 ∧ changes = validFor then some count else none

def ofBytes? (b : ByteArray) : Option Image := do
  let size ← number? b 16 2
  let pageSize := if size = 1 then 65536 else size
  let readVersion ← byte? b 19
  let reserved ← byte? b 20
  let fractions ← number? b 21 3
  let format ← number? b 44 4
  let encoding ← encoding? ((← number? b 56 4) % 4)
  let stored := (b.size + pageSize - 1) / pageSize
  if b.extract 0 magic.size == magic && readVersion ≤ 2 && fractions == 0x402020 && format ≤ 4
      && isPowerOfTwo pageSize && 512 ≤ pageSize && reserved + 480 ≤ pageSize
      && (pageCount? b).getD stored ≤ stored then
    some ⟨b, pageSize, pageSize - reserved, encoding⟩
  else none

def pageStart (img : Image) (page : Nat) : Nat :=
  (page - 1) * img.pageSize

/-- Where the description of a page starts; the first page has the header of the file before it. -/
def descriptionStart (img : Image) (page : Nat) : Nat :=
  if page = 1 then headerSize else img.pageStart page

/-- How many bytes of a record are in its page, where `most` is the greatest record that fits. -/
def localSize (img : Image) (most size : Nat) : Nat :=
  let least := (img.usable - 12) * 32 / 255 - 23
  let kept := least + (size - least) % (img.usable - 4)
  if size ≤ most then size else if kept ≤ most then kept else least

def chain? (img : Image) : (room page count : Nat) → Option ByteArray
  | 0, _, _ => none
  | room + 1, page, count => do
    let start := img.pageStart page
    let next ← number? img.bytes start 4
    let here := min count (img.usable - 4)
    let content := img.bytes.extract (start + 4) (start + 4 + here)
    if count ≤ here then some content
    else return content ++ (← chain? img room next (count - here))

def record? (img : Image) (most size start : Nat) : Option ByteArray := do
  let here := img.localSize most size
  let content := img.bytes.extract start (start + here)
  let all ←
    if size ≤ here then some content
    else do
      let next ← number? img.bytes (start + here) 4
      let rest ← img.chain? (img.bytes.size / img.pageSize + 1) next (size - here)
      some (content ++ rest)
  if all.size = size then some all else none

def numbered? (img : Image) (start : Nat) : Option (Int × ByteArray) := do
  let (size, start) ← compact? img.bytes start
  let (number, start) ← compact? img.bytes start
  return (signed 64 number, ← img.record? (img.usable - 35) size start)

def unnumbered? (img : Image) (start : Nat) : Option ByteArray := do
  let (size, start) ← compact? img.bytes start
  img.record? ((img.usable - 12) * 64 / 255 - 23) size start

def places? (img : Image) (page start count : Nat) : Option (List Nat) :=
  (List.range count).mapM fun k =>
    (number? img.bytes (start + 2 * k) 2).map (img.pageStart page + ·)

def gathered : List (List α × Bool) → List α × Bool
  | [] => ([], true)
  | (records, true) :: rest =>
    let (more, whole) := gathered rest
    (records ++ more, whole)
  | (records, false) :: _ => (records, false)

def single (r : Option α) : List α × Bool :=
  match r with
  | some a => ([a], true)
  | none => ([], false)

def description? (img : Image) (page : Nat) : Option (Nat × Nat × Nat) := do
  let start := img.descriptionStart page
  let kind ← byte? img.bytes start
  let count ← number? img.bytes (start + 3) 2
  return (kind, count, start)

/-- The records below a page in order, by the kinds of leaves and inner pages, the way to read the
record of a leaf, and that of an inner page if it has records. `depth` bounds the height. -/
def recordsBelow (img : Image) (leaf inner : Nat) (ofLeaf : Nat → Option α)
    (ofInner : Option (Nat → Option α)) : (depth page : Nat) → List α × Bool
  | 0, _ => ([], false)
  | depth + 1, page =>
    match img.description? page with
    | none => ([], false)
    | some (kind, count, start) =>
      if kind = leaf then
        match img.places? page (start + 8) count with
        | none => ([], false)
        | some places => gathered (places.map fun p => single (ofLeaf p))
      else if kind = inner then
        match img.places? page (start + 12) count, number? img.bytes (start + 8) 4 with
        | some places, some last =>
          gathered <| places.flatMap (fun p =>
            (match number? img.bytes p 4 with
              | some child => recordsBelow img leaf inner ofLeaf ofInner depth child
              | none => ([], false))
              :: (match ofInner with
                | some read => [single (read (p + 4))]
                | none => []))
            ++ [recordsBelow img leaf inner ofLeaf ofInner depth last]
        | _, _ => ([], false)
      else ([], false)

def greatestDepth : Nat := 20

def numberedRecords (img : Image) (root : Nat) : List (Int × ByteArray) × Bool :=
  img.recordsBelow 13 5 img.numbered? none greatestDepth root

def unnumberedRecords (img : Image) (root : Nat) : List ByteArray × Bool :=
  img.recordsBelow 10 2 img.unnumbered? (some img.unnumbered?) greatestDepth root

end Image

end LookupEnums
