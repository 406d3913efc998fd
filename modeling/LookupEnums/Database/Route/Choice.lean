import LookupEnums.Database.Route.Access

/-! # Routes

A route goes through the sources one inside the other, by one access each. Of all routes the one with
the least cost is taken, where rows that do not come in the order that is wished for have to be sorted
at a cost. Only a few of the best beginnings are followed. -/

namespace LookupEnums.Route
open Estimate

structure Wish where
  place : Option (Nat × Place)
  collation : Collation := .exact
  descending : Bool := false
  sources : List Nat

inductive Purpose
  | sorting
  | grouping
  | telling
  deriving DecidableEq, Repr

structure Goal where
  purpose : Purpose
  wishes : List Wish
  /-- The number of results. -/
  width : Nat
  limit : Option Nat := none
  /-- Whether repeated rows are left out. -/
  isDistinct : Bool := false

structure Step where
  access : Access
  isReversed : Bool := false

structure Trail where
  steps : List Step := []
  rows : Int := 0
  cost : Int := 0
  unsorted : Int := 0
  /-- How many wishes the order of the rows fulfils, if that is settled. -/
  fulfilled : Option Nat

namespace Trail

def sources (t : Trail) : List Nat :=
  t.steps.map (·.access.source)

end Trail

structure Progress where
  /-- The wishes that are fulfilled. -/
  met : List Nat := []
  /-- Whether no two rows are the same in what they are ordered by. -/
  isStrict : Bool := true
  ready : List Nat := []
  strict : List Nat := []
  directions : List Bool := []

namespace Progress

def open' (g : Goal) (p : Progress) : List (Nat × Wish) :=
  (g.wishes.zipIdx.filter fun (_, k) => !p.met.contains k).map fun (w, k) => (k, w)

def isDone (g : Goal) (p : Progress) : Bool :=
  (open' g p).isEmpty

/-- Wishes for columns that are the same in all rows. -/
def withFixed (q : Search) (g : Goal) (source : Nat) (p : Progress) : Progress :=
  let fixed := (open' g p).filter fun (_, w) =>
    match w.place with
    | none => false
    | some (s, place) => s = source && q.conditions.any fun c =>
      match c.restriction with
      | none => false
      | some r =>
        r.source = source && r.place = place && r.needs.all p.ready.contains
          && (r.test = .empty ||
            (r.test.isEquality && (place = .rowNumber || r.collation = w.collation)))
  { p with met := p.met ++ fixed.map (·.1) }

structure KeyProgress where
  progress : Progress
  /-- Whether the listing is gone through backwards, once that is settled. -/
  direction : Option Bool := none
  hasNumber : Bool := false

def wishFor? (g : Goal) (source : Nat) (part : KeyPart) (p : Progress) : Option (Nat × Wish) :=
  let candidates := if g.purpose = .sorting then (open' g p).take 1 else open' g p
  candidates.find? fun (_, w) =>
    part.place.any fun place => w.place = some (source, place)
      && (place = .rowNumber || w.collation = part.collation)

def alongKey (g : Goal) (a : Access) (l : Listing) :
    (place : Nat) → List KeyPart → KeyProgress → KeyProgress
  | _, [], k => k
  | j, part :: rest, k =>
    let p := k.progress
    match a.fixed[j]? with
    | some r =>
      if r.test = .equal then alongKey g a l (j + 1) rest k
      else if r.test = .same || r.test = .empty then
        alongKey g a l (j + 1) rest { k with progress := { p with isStrict := false } }
      else through j part rest k
    | none =>
      let mayRepeat := !part.notNull
      through j part rest
        { k with progress := { p with isStrict := p.isStrict && !mayRepeat } }
where
  through (j : Nat) (part : KeyPart) (rest : List KeyPart) (k : KeyProgress) : KeyProgress :=
    let p := k.progress
    let stop : KeyProgress :=
      { k with progress := { p with isStrict := p.isStrict && !(j = 0 || j < numberedLength) } }
    match wishFor? g a.source part p with
    | none => stop
    | some (wish, w) =>
      let backwards := part.descending != w.descending
      let isFitting := g.purpose = .grouping || k.direction.all (· == backwards)
      if !isFitting then stop
      else
        let direction := if g.purpose = .grouping then k.direction else some backwards
        alongKey g a l (j + 1) rest
          { progress := { p with met := p.met ++ [wish] }, direction
            hasNumber := k.hasNumber || part.place = some .rowNumber }
  numberedLength : Nat :=
    if l.index.isNone then 0 else l.keyLength

/-- Wishes that only depend on sources whose rows differ in what was ordered by so far. -/
def withStrict (g : Goal) (source : Nat) (p : Progress) : Progress :=
  if !p.isStrict then p
  else
    let strict := p.strict ++ [source]
    let found := (open' g p).filter fun (_, w) => w.sources.all strict.contains
    { p with strict, met := p.met ++ found.map (·.1) }

def step? (q : Search) (g : Goal) (p : Progress) (a : Access) : Option Progress := do
  if !p.isStrict || p.isDone g then return { p with directions := p.directions ++ [false] }
  else
    let p := p.withFixed q g a.source
    let k ← if a.isSingle then some { progress := p } else do
      let l ← a.listing?
      let p := if l.index.isNone then p else { p with isStrict := l.isUnique }
      let k := alongKey g a l 0 l.parts { progress := p }
      some (if k.hasNumber then { k with progress := { k.progress with isStrict := true } } else k)
    let p := withStrict g a.source k.progress
    return { p with
      ready := p.ready ++ [a.source]
      directions := p.directions ++ [k.direction.getD false] }

/-- How many wishes are fulfilled from the first on, if that is settled. -/
def fulfilled (g : Goal) (p : Progress) : Option Nat :=
  if p.isDone g then some g.wishes.length
  else if p.isStrict then none
  else some (min (g.wishes.length - 1) ((List.range g.wishes.length).takeWhile p.met.contains).length)

end Progress

namespace Goal

def sortCost (g : Goal) (rows : Int) (fulfilled : Nat) : Int :=
  let all := g.wishes.length
  let whole := rows + ofNat ((g.width + 59) / 30)
  let part := if fulfilled = 0 then whole else whole + ofNat ((all - fulfilled) * 100 / all) - 66
  match g.limit with
  | some limit =>
    part + 10 + (if fulfilled = 0 then 0 else 6) + logarithm (min rows limit)
  | none => part + logarithm (if g.isDistinct && 10 < rows then rows - 10 else rows)

def fulfilledBy (g : Goal) (q : Search) (accesses : List Access) : Option Nat × List Bool :=
  match accesses.foldlM (Progress.step? q g) {} with
  | none => (some 0, accesses.map fun _ => false)
  | some p => (p.fulfilled g, p.directions)

end Goal

namespace Search

/-- A trail with one more step; with a goal, `rows` are those that would have to be sorted. -/
def extended? (q : Search) (goal : Option (Goal × Int)) (t : Trail) (a : Access) : Option Trail :=
  if t.sources.contains a.source || !a.needs.all t.sources.contains
      || (a.isPrepared && t.rows < 3) then none
  else
    let unsorted := add (add a.setup (a.run + t.rows)) t.unsorted
    let rows := t.rows + a.rows
    let accesses := t.steps.map (·.access) ++ [a]
    let (fulfilled, directions) := match goal, t.fulfilled with
      | some (g, _), none => g.fulfilledBy q accesses
      | _, known => (known, (t.steps.map fun (s : Step) => s.isReversed) ++ [false])
    let (cost, unsorted) := match goal, fulfilled with
      | some (g, total), some n =>
        if n < g.wishes.length then (add unsorted (g.sortCost total n) + 3, unsorted)
        else (unsorted, unsorted - 2)
      | _, _ => (unsorted, unsorted - 2)
    let isOuter := t.steps.isEmpty && a.isRelation
    some
      { steps := (accesses.zip directions).map fun (access, isReversed) => ⟨access, isReversed⟩
        rows := if isOuter then rows - 30 else rows
        cost := if isOuter then cost - 10 else cost
        unsorted, fulfilled }

def rivals (s t : Trail) : Bool :=
  s.fulfilled.isNone == t.fulfilled.isNone && s.sources.length = t.sources.length
    && s.sources.all t.sources.contains

def isNoBetter (t best : Trail) : Bool :=
  best.cost < t.cost || (best.cost = t.cost &&
    (best.rows < t.rows || (best.rows = t.rows && best.unsorted ≤ t.unsorted)))

def dearest (trails : List Trail) : Nat :=
  (trails.zipIdx.foldl (fun (worst : Option (Trail × Nat)) (t, k) => match worst with
    | some (w, _) =>
      if w.cost < t.cost || (w.cost = t.cost && w.unsorted < t.unsorted) then some (t, k) else worst
    | none => some (t, k)) none).elim 0 (·.2)

def keep (room : Nat) (kept : List Trail) (t : Trail) : List Trail :=
  match kept.findIdx? (rivals t) with
  | some k => match kept[k]? with
    | some best => if isNoBetter t best then kept else kept.set k t
    | none => kept
  | none =>
    if kept.length < room then kept ++ [t]
    else
      let k := dearest kept
      match kept[k]? with
      | some worst =>
        if worst.cost < t.cost || (worst.cost = t.cost && worst.unsorted ≤ t.unsorted) then kept
        else kept.set k t
      | none => kept

def roomFor (sources : Nat) : Nat :=
  if sources ≤ 1 then 1 else if sources = 2 then 5 else 10

def advance (q : Search) (goal : Option (Goal × Int)) (accesses : List Access) (trails : List Trail) :
    List Trail :=
  (trails.flatMap fun t => accesses.filterMap (q.extended? goal t)).foldl
    (keep (roomFor q.sources.length)) []

def cheapestTrail? (trails : List Trail) : Option Trail :=
  trails.foldl (fun best t => match best with
    | some b => if t.cost < b.cost then some t else some b
    | none => some t) none

def trail? (q : Search) (goal : Option (Goal × Int)) (accesses : List Access) : Option Trail :=
  let start : Trail := { fulfilled := if goal.isNone then some 0 else none }
  cheapestTrail? <|
    (List.range q.sources.length).foldl (fun trails _ => q.advance goal accesses trails) [start]

/-- The best route. Where an order is wished for, a first look tells how many rows there may be to
sort. Rows that are only told apart are not gone through backwards. -/
def route? (q : Search) (goal : Option Goal) : Option Trail :=
  let helpful := (goal.map fun (g : Goal) => g.wishes.filterMap fun (w : Wish) => w.place).getD []
  let q := { q with helpful }
  let accesses := (List.range q.sources.length).flatMap q.accesses
  match q.trail? none accesses, goal with
  | some plain, some g =>
    let found := q.trail? (some (g, plain.rows + 1)) accesses
    if g.purpose = .telling then
      found.map fun (t : Trail) =>
        { t with steps := t.steps.map fun (s : Step) => { s with isReversed := false } }
    else found
  | found, _ => found

end Search

end LookupEnums.Route
