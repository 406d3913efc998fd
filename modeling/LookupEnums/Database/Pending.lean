import LookupEnums.Database.Image

/-! # Pending changes

Two files may stand beside a database. One keeps the pages that a change replaced, in case it breaks
off, and then they are put back. The other collects newer pages, which count up to the last change
that was ended. Each page in them has a checksum, and the first that does not fit ends them. -/

namespace LookupEnums

namespace Image

/-- A file of so many pages, some of them replaced. Of several pages for one place the last counts. -/
def withPages (b : ByteArray) (pageSize count : Nat) (pages : List (Nat × ByteArray)) : ByteArray :=
  let newest := pages.reverse
  let blank := ByteArray.mk (Array.replicate pageSize 0)
  (List.range count).foldl (fun all k =>
    let stored := b.extract (k * pageSize) ((k + 1) * pageSize)
    all ++ ((newest.lookup (k + 1)).getD (stored ++ blank.extract stored.size pageSize))) .empty

end Image

/-- The pages that a change replaced. They come in sections, each after a header of its own. -/
structure UndoLog where
  bytes : ByteArray
  /-- The size of a header. -/
  sector : Nat
  pageSize : Nat
  /-- The pages that the database had. -/
  count : Nat

namespace UndoLog

def magic : List Nat := [0xd9, 0xd5, 0x05, 0xf9, 0x20, 0xa1, 0x63, 0xd7]

def leastSector : Nat := 512

def startsSection (b : ByteArray) (start : Nat) : Bool :=
  (List.range 8).map (fun k => Image.byte? b (start + k)) = magic.map some

def ofBytes? (b : ByteArray) : Option UndoLog := do
  let count ← Image.number? b 16 4
  let sector ← Image.number? b 20 4
  let pageSize ← Image.number? b 24 4
  if startsSection b 0 && leastSector ≤ b.size
      && Image.isPowerOfTwo sector && 32 ≤ sector && sector ≤ 65536
      && Image.isPowerOfTwo pageSize && 512 ≤ pageSize && pageSize ≤ 65536 then
    some ⟨b, sector, pageSize, count⟩
  else none

/-- Every two hundredth byte from the end of a page counts. -/
def checksum (pageSize seed : Nat) (page : ByteArray) : UInt32 :=
  (List.range ((pageSize - 1) / 200)).foldl (fun sum k =>
    sum + ((Image.byte? page (pageSize - 200 * (k + 1))).getD 0).toUInt32) seed.toUInt32

def page? (u : UndoLog) (seed start : Nat) : Option (Nat × ByteArray) := do
  let place ← Image.number? u.bytes start 4
  let page := u.bytes.extract (start + 4) (start + 4 + u.pageSize)
  let sum ← Image.number? u.bytes (start + 4 + u.pageSize) 4
  if place ≠ 0 && (u.count < place || checksum u.pageSize seed page == sum.toUInt32) then
    some (place, page)
  else none

def pages (u : UndoLog) (seed : Nat) : (left start : Nat) → List (Nat × ByteArray) × Option Nat
  | 0, start => ([], some start)
  | left + 1, start =>
    match u.page? seed start with
    | none => ([], none)
    | some page =>
      let (more, rest) := pages u seed left (start + u.pageSize + 8)
      (page :: more, rest)

def allPages : Nat := 0xffffffff

def sections (u : UndoLog) : (room start : Nat) → List (Nat × ByteArray)
  | 0, _ => []
  | room + 1, start =>
    let start := (start + u.sector - 1) / u.sector * u.sector
    match Image.number? u.bytes (start + 8) 4, Image.number? u.bytes (start + 12) 4 with
    | some left, some seed =>
      if startsSection u.bytes start && start + u.sector ≤ u.bytes.size then
        let left := if left = allPages then (u.bytes.size - u.sector) / (u.pageSize + 8) else left
        match u.pages seed left (start + u.sector) with
        | (found, some rest) => found ++ sections u room rest
        | (found, none) => found
      else []
    | _, _ => []

def undo (u : UndoLog) (database : ByteArray) : ByteArray :=
  Image.withPages database u.pageSize u.count
    (u.sections (u.bytes.size / u.sector + 1) 0)

def isLeft (b : ByteArray) : Bool :=
  (Image.byte? b 0).any (· ≠ 0)

end UndoLog

/-- A newer page. With the last page of a change comes the number of pages the database has then. -/
structure NewerPage where
  place : Nat
  count : Nat
  page : ByteArray

structure ChangeLog where
  bytes : ByteArray
  pageSize : Nat
  /-- Whether words have their highest byte first where they are summed. -/
  highestFirst : Bool
  /-- Each page repeats this. -/
  salt : ByteArray

namespace ChangeLog

def headerSize : Nat := 32

def pageHeaderSize : Nat := 24

def version : Nat := 3007000

def word (highestFirst : Bool) (b : ByteArray) (start : Nat) : UInt32 :=
  let bytes := (List.range 4).map fun k => (Image.byte? b (start + k)).getD 0
  ((if highestFirst then bytes else bytes.reverse).foldl (· * 256 + ·) 0).toUInt32

def sums (highestFirst : Bool) (b : ByteArray) (start size : Nat) (s : UInt32 × UInt32) :
    UInt32 × UInt32 :=
  (List.range (size / 8)).foldl (fun (s, t) k =>
    let s := s + word highestFirst b (start + 8 * k) + t
    (s, t + word highestFirst b (start + 8 * k + 4) + s)) s

def sumsAt (b : ByteArray) (start : Nat) : UInt32 × UInt32 :=
  (word true b start, word true b (start + 4))

def ofBytes? (b : ByteArray) : Option ChangeLog := do
  let magic ← Image.number? b 0 4
  let pageSize ← Image.number? b 8 4
  let highestFirst := magic % 2 == 1
  if headerSize < b.size && magic / 2 == 0x377f0682 / 2
      && Image.isPowerOfTwo pageSize && 512 ≤ pageSize && pageSize ≤ 65536
      && sums highestFirst b 0 24 (0, 0) == sumsAt b 24 then
    some ⟨b, pageSize, highestFirst, b.extract 16 24⟩
  else none

def isSupported (c : ChangeLog) : Bool :=
  Image.number? c.bytes 4 4 = some version

def pages (c : ChangeLog) : (left start : Nat) → UInt32 × UInt32 → List NewerPage
  | 0, _, _ => []
  | left + 1, start, before =>
    let content := start + pageHeaderSize
    let after := sums c.highestFirst c.bytes content c.pageSize
      (sums c.highestFirst c.bytes start 8 before)
    match Image.number? c.bytes start 4, Image.number? c.bytes (start + 4) 4 with
    | some place, some count =>
      if place ≠ 0 && c.bytes.extract (start + 8) (start + 16) == c.salt
          && sumsAt c.bytes (start + 16) == after then
        ⟨place, count, c.bytes.extract content (content + c.pageSize)⟩
          :: pages c left (content + c.pageSize) after
      else []
    | _, _ => []

def all (c : ChangeLog) : List NewerPage :=
  c.pages ((c.bytes.size - headerSize) / (pageHeaderSize + c.pageSize)) headerSize
    (sumsAt c.bytes 24)

def redo (c : ChangeLog) (database : ByteArray) : ByteArray :=
  match c.all.reverse.dropWhile (·.count = 0) with
  | [] => database
  | last :: earlier =>
    Image.withPages database c.pageSize last.count
      ((last :: earlier).reverse.map fun p => (p.place, p.page))

end ChangeLog

namespace Image

/-- The database that is meant by a file with the logs beside it. They say nothing about an empty
file. -/
def settled? (database : ByteArray) (undo changes : Option ByteArray) : Option ByteArray :=
  if database.isEmpty then some database
  else
    let database := match undo.bind fun b => if UndoLog.isLeft b then UndoLog.ofBytes? b else none with
      | some u => u.undo database
      | none => database
    match changes.bind ChangeLog.ofBytes? with
    | some c =>
      if database.isEmpty then some database
      else if c.isSupported then some (c.redo database) else none
    | none => some database

end Image

end LookupEnums
