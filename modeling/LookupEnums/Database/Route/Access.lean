import LookupEnums.Database.Route.Condition

/-! # Accesses

The ways to get at the rows of one source, with what each needs and is expected to cost: through a
listing from end to end or between bounds that conditions set, through an index made for the purpose,
or by several accesses one after the other where one of several conditions has to hold. An access that
is no better than another one is left out. -/

namespace LookupEnums.Route
open Estimate

inductive Way
  | listed (l : Listing)
  /-- By an index that is made for conditions. -/
  | prepared
  | alternatives (choices : List (List Condition))

structure Access where
  source : Nat
  way : Way
  /-- The conditions that are used. -/
  uses : List Nat := []
  /-- The restrictions of the first parts of the key that leave few data. -/
  fixed : List Restriction := []
  needs : List Nat
  setup : Int := 0
  run : Int
  rows : Int
  /-- Whether there is one row at most. -/
  isSingle : Bool := false
  /-- Accesses that may help with an order are only compared with those of the same listing. -/
  group : Nat := 0
  /-- Whether a relation is gone through that was read before. -/
  isRelation : Bool := false

namespace Access

def isIndexed (a : Access) : Bool :=
  match a.way with
  | .listed l => l.index.isSome
  | _ => false

def isCovering (a : Access) : Bool :=
  match a.way with
  | .listed l => l.index.isSome && l.covers
  | _ => false

def isPrepared (a : Access) : Bool :=
  match a.way with
  | .prepared => true
  | _ => false

def listing? (a : Access) : Option Listing :=
  match a.way with
  | .listed l => some l
  | _ => none

/-- Whether `a` uses fewer conditions than `b`, all of them used by `b` too, and is not dearer. -/
def isLesserPart (a b : Access) : Bool :=
  a.uses.length < b.uses.length && !(b.run < a.run && b.rows < a.rows)
    && a.uses.all b.uses.contains && !(a.isCovering && !b.isCovering)

/-- The estimates brought into line with those of accesses that use more or fewer conditions. -/
def adjusted (found : List Access) (a : Access) : Access :=
  if !a.isIndexed then a
  else (found.filter (·.isIndexed)).foldl (fun a p =>
    if p.isLesserPart a then { a with run := min p.run a.run, rows := min (p.rows - 1) a.rows }
    else if a.isLesserPart p then { a with run := max p.run a.run, rows := max (p.rows + 1) a.rows }
    else a) a

def supersedes (a p : Access) : Bool :=
  p.isPrepared && a.isIndexed && a.fixed.any (·.test.isEquality) && a.needs.all p.needs.contains

def isAsGood (a b : Access) : Bool :=
  a.needs.all b.needs.contains && a.run ≤ b.run && a.rows ≤ b.rows

def pruned (a : Access) : List Access → List Access
  | [] => []
  | p :: rest =>
    if p.group ≠ a.group then p :: pruned a rest
    else if supersedes a p then pruned a rest
    else if p.setup ≤ a.setup && isAsGood p a then p :: rest
    else if isAsGood a p then pruned a rest
    else p :: pruned a rest

def insertAdjusted (a : Access) : List Access → List Access
  | [] => [a]
  | p :: rest =>
    if p.group ≠ a.group then p :: insertAdjusted a rest
    else if supersedes a p then a :: pruned a rest
    else if p.setup ≤ a.setup && isAsGood p a then p :: rest
    else if isAsGood a p then a :: pruned a rest
    else p :: insertAdjusted a rest

def insert (found : List Access) (a : Access) : List Access :=
  insertAdjusted (adjusted found a) found

/-- Fewer rows are expected where further conditions can be judged at once. -/
def withConditions (conditions : List Condition) (total : Int) (a : Access) : Access :=
  let judged := conditions.filter fun c =>
    c.parent.isNone && c.sources.contains a.source
      && c.sources.all (fun s => s = a.source || a.needs.contains s)
      && !a.uses.any fun u => u = c.id || (conditions.find? (·.id = u)).any (·.parent = some c.id)
  let reduction := judged.foldl (fun m c => max m ((c.restriction.map (·.reduction)).getD 0)) 0
  { a with rows := min (a.rows - judged.length) (total - reduction) }

end Access

structure Search where
  sources : List SourceShape
  conditions : List Condition
  /-- The places that are ordered, grouped or told apart by. -/
  helpful : List (Nat × Place) := []

namespace Search

def shape (q : Search) (source : Nat) : SourceShape :=
  q.sources.getD source { name := "", columns := [] }

def before (q : Search) (source : Nat) : List Nat :=
  if (q.shape source).join = .free then [] else List.range source

def helps (q : Search) (source : Nat) (l : Listing) : Bool :=
  (l.parts.take l.keyLength).any fun p =>
    p.place.any fun place => q.helpful.contains (source, place)
      || q.helpful.contains (source, .rowNumber)

/-- An index made for an equality. To make it is worth the more, the smaller the source is. -/
def prepared (q : Search) (source : Nat) : List Access :=
  let s := q.shape source
  let isMade := (s.table.map (·.definition.hasRowNumbers)).getD true
  if !isMade then []
  else q.conditions.filterMap fun c =>
    (Condition.restrictionOf? q.sources source c).bind fun r =>
      match r.place with
      | .rowNumber => none
      | .column name =>
        let affinity := ((s.columns.find? (·.name = name)).map (·.affinity)).getD .unchanged
        if r.test.isEquality && Restriction.suits.isSuited r affinity then
          let size := logarithm s.rows
          let setup := size + s.rows + (if s.table.isSome then 28 else -25)
          some { source, way := .prepared, uses := [c.id], needs := unite (q.before source) r.needs
                 setup := max 0 setup, run := add size 43, rows := 43 }
        else none
where
  unite (a b : List Nat) : List Nat :=
    a ++ b.filter (!a.contains ·)

def shows (q : Search) (source : Nat) (l : Listing) (c : Condition) : Bool :=
  c.expr.mentions.all fun (table, name) =>
    match SourceShape.locate? q.sources table name with
    | some (k, place) => k ≠ source || l.parts.any (·.place = some place)
    | none => true

/-- The rows that have to be looked up beside a listing: fewer for each of the first conditions that it
shows. -/
def lookups (q : Search) (source : Nat) (l : Listing) (rows : Int) : Int :=
  (q.conditions.takeWhile (q.shows source l)).foldl (fun n c =>
    if c.restriction.any (·.test.isEquality) then n - 20 else n - 1) (rows + 16)

def full? (q : Search) (source : Nat) (l : Listing) (group : Nat) : Option Access :=
  let s := q.shape source
  let group := if q.helps source l then group else 0
  let needs := q.before source
  if l.index.isNone then
    some <| Access.withConditions q.conditions s.rows
      { source, way := .listed l, needs, run := s.rows + 16, rows := s.rows, group
        isRelation := s.table.isNone }
  else
    let isKept := (s.table.map (·.definition.hasRowNumbers)).getD true
    let isPartial := l.index.any (·.condition.isSome)
    if group ≠ 0 || !isKept || isPartial || (l.covers && l.weight < 15) then
      let total := l.shares.headD s.rows
      let run := total + 1 + l.weight
      let run := if l.covers then run else add run (q.lookups source l total)
      some <| Access.withConditions q.conditions total
        { source, way := .listed l, needs, run, rows := total, group }
    else none

structure Bounds where
  uses : List Nat := []
  fixed : List Restriction := []
  needs : List Nat
  /-- The rows expected for one choice of data, and how many choices there are. -/
  rows : Int
  choices : Int := 0
  lower : Option Test := none

/-- The rows within bounds: a quarter for each of them that is set in so many words, and a quarter again
for two. -/
def within (rows : Int) (tests : List Test) : Int :=
  let stated := tests.filter (· ≠ .present)
  let narrowed := rows - 20 * stated.length - (if 2 ≤ tests.length then 20 else 0)
  min (rows - tests.length) (max 10 narrowed)

def bounded (q : Search) (l : Listing) (total : Int) (b : Bounds) (source : Nat)
    (c : Condition) (r : Restriction) : Access × Bounds :=
  let before := b.fixed.length
  let uses := b.uses ++ [c.id]
  let needs := prepared.unite b.needs r.needs
  let isSingle := r.test.isEquality &&
    (r.place = .rowNumber || (before + 1 = l.keyLength && b.choices = 0 &&
      (l.isStrictlyUnique || (l.keyLength = 1 && l.isUnique && r.test = .equal))))
  let choices : Int := match r.test with
    | .oneOf count => ofNat count
    | _ => 0
  let share (n : Nat) : Int := l.shares.getD n 0
  let fixedRows := b.rows + share (before + 1) - share before
    + (if r.test = .empty then 10 else 0)
  let rows := match r.test with
    | .above | .present => within b.rows [r.test]
    | .below => within b.rows (b.lower.toList ++ [.below])
    | .startingWith => within b.rows [.above, .below]
    | _ => fixedRows
  let run := add (logarithm total) (rows + 1 + l.weight)
  let run := if l.index.isNone || l.covers then run else add run (rows + 16)
  let fixed := if r.test.isFixing then b.fixed ++ [r] else b.fixed
  let access := Access.withConditions q.conditions total
    { source, way := .listed l, uses, fixed, needs, run := run + b.choices + choices
      rows := rows + b.choices + choices, isSingle }
  let onwards : Bounds :=
    { uses, fixed, needs, rows := if r.test.isFixing then rows else b.rows
      choices := b.choices + choices, lower := if r.test.isFixing then none else some r.test }
  (access, onwards)

def addBounded (q : Search) (source : Nat) (l : Listing) (group : Nat) :
    (room : Nat) → Bounds → List Access → List Access
  | 0, _, found => found
  | room + 1, b, found =>
    let total := l.shares.headD (q.shape source).rows
    match l.parts[b.fixed.length]? with
    | none => found
    | some part =>
      let isOpen := !l.isPrimary || b.fixed.length < l.keyLength
      let candidates := if !isOpen then [] else q.conditions.filterMap fun c =>
        (Condition.restrictionOf? q.sources source c).bind fun r =>
          let isKnown := part.notNull && (r.test = .empty || r.test = .present)
          if r.suits part && !isKnown && (b.lower.isNone || r.test = .below) then some (c, r) else none
      candidates.foldl (fun found (c, r) =>
        let (access, onwards) := bounded q l total b source c r
        let found := Access.insert found { access with group }
        if r.test = .below || r.test = .startingWith then found
        else addBounded q source l group room onwards found) found

def throughListings (q : Search) (source : Nat) (found : List Access) : List Access :=
  let holds := Condition.isKnown q.sources q.conditions source
  ((Listing.all holds (q.shape source)).zipIdx).foldl (fun found (l, k) =>
    let group := if q.helps source l then k + 1 else 0
    let found := match q.full? source l (k + 1) with
      | some a => Access.insert found a
      | none => found
    addBounded q source l group (l.parts.length + 2)
      { needs := q.before source, rows := l.shares.headD (q.shape source).rows } found) found

/-- The cost of accesses one after the other. -/
def cheapest? (found : List Access) : Option Access :=
  found.foldl (fun best a => match best with
    | some b => if a.run < b.run then some a else some b
    | none => some a) none

def alternatives? (q : Search) (source : Nat) (c : Condition) : Option Access := do
  if c.alternatives.isEmpty || ((q.shape source).join = .outer && c.joins ≠ some source) then none
  let parts ← c.alternatives.mapM fun conditions =>
    let q := { q with conditions, helpful := [] }
    cheapest? ((q.throughListings source []).filter (!·.uses.isEmpty))
  let first ← parts.head?
  let total := parts.tail.foldl (fun (run, rows) a => (add run a.run, add rows a.rows))
    (first.run, first.rows)
  return { source, way := .alternatives c.alternatives, uses := [c.id]
           needs := (parts.flatMap (·.needs)).eraseDups, run := total.1 + 1, rows := total.2 }

def accesses (q : Search) (source : Nat) : List Access :=
  let found := (q.prepared source).foldl Access.insert []
  let found := q.throughListings source found
  (q.conditions.filterMap (q.alternatives? source)).foldl Access.insert found

end Search

end LookupEnums.Route
