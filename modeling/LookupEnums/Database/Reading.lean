import LookupEnums.Database.Outcome
import LookupEnums.Database.Results

/-! # Reading relations

A table is read as it is stored, and a view by its selection, from tables and other views. Views are
followed to a depth that no view without a circle exceeds. -/

namespace LookupEnums
open Sql Route

/-- A part of a selection, made clear: sources with what is needed of them, and expressions that only
name columns. -/
structure ClearPart where
  sources : List SourceRows
  /-- The results with the columns that show them. -/
  results : List (Expr × Column)
  search : Search
  groupBy : List Expr
  having : Option Expr
  orderBy : List IndexedColumn
  isDistinct : Bool
  limit : Option Nat
  /-- What selections inside show, and the rows outside that they and this part can see. -/
  ask : Answers
  outer : Scope

namespace ClearPart

def shapes (p : ClearPart) : List SourceShape :=
  p.sources.map (·.shape)

def blank (p : ClearPart) : Scope :=
  SourceShape.scope p.shapes

def value? (p : ClearPart) (s : Scope) (group : Option (List Scope)) (e : Expr) : Option Datum :=
  e.evaluate? p.ask (s ++ p.outer) (group.map fun scopes => scopes.map (· ++ p.outer))

def judge (p : ClearPart) : Judge :=
  fun s e => p.value? s none e

def isGrouped (p : ClearPart) : Bool :=
  !p.groupBy.isEmpty || p.results.any (·.1.isGrouping)

def wishFor (p : ClearPart) (e : Expr) (collation : Option Collation) (descending : Bool) :
    Wish :=
  { place := SourceShape.placeOf? p.shapes e
    collation := collation.getD (((e.collation? p.blank).map (·.2)).getD .exact)
    descending
    sources := SourceShape.mentioned p.shapes e }

/-- Whether the rows of a single source are told apart by some columns, and by those that conditions
set. -/
def areToldApart (p : ClearPart) (source : SourceShape) : Bool :=
  let wishes := p.results.map fun (e, _) => p.wishFor e none false
  let isSet (part : KeyPart) : Bool := p.search.conditions.any fun c =>
    c.restriction.any fun r => r.test = .equal && r.needs.isEmpty && r.suits part
  let isShown (part : KeyPart) : Bool := part.notNull && wishes.any fun w =>
    part.place.any (fun place => w.place = some (0, place))
      && (part.place = some .rowNumber || w.collation = part.collation)
  (Listing.all (fun _ => false) source).any fun l =>
    l.isUnique && (l.parts.take l.keyLength).all fun part => isSet part || isShown part

/-- What the order of rows may help with. -/
def goal? (p : ClearPart) (width : Nat) : Option Goal :=
  let plain (purpose : Purpose) (es : List Expr) : Goal :=
    { purpose, wishes := es.map (p.wishFor · none false), width, isDistinct := p.isDistinct }
  if !p.groupBy.isEmpty then some (plain .grouping p.groupBy)
  else if p.isGrouped then none
  else if !p.orderBy.isEmpty then
    let wishes := p.orderBy.map fun c => p.wishFor c.expr c.collation c.descending
    some { purpose := .sorting, wishes, width, limit := p.limit, isDistinct := p.isDistinct }
  else if p.isDistinct then
    match p.shapes with
    | [s] => if p.areToldApart s then none else some (plain .telling (p.results.map (·.1)))
    | _ => some (plain .telling (p.results.map (·.1)))
  else none

def directions (p : ClearPart) : List Bool :=
  if p.orderBy.length = p.groupBy.length then p.orderBy.map (·.descending)
  else p.groupBy.map fun _ => false

def keyOrder (p : ClearPart) (a b : List Datum) : Ordering :=
  let collations := p.groupBy.map fun e => ((e.collation? p.blank).map (·.2)).getD .exact
  (((collations.zip p.directions).zip (a.zip b)).map fun ((c, descending), x, y) =>
    if descending then (x.order c y).swap else x.order c y).foldl Ordering.then .eq

def extremes (p : ClearPart) : List (String × Expr) :=
  p.results.flatMap (·.1.extremes) ++ p.orderBy.flatMap (·.expr.extremes)
    ++ (p.having.map Expr.extremes).getD []

/-- A scope to evaluate in for each row of the result, with the scopes of its group if it has one. -/
def outcomes? (p : ClearPart) (isInOrder : Bool) (scopes : List Scope) :
    Option (List (Scope × Option (List Scope))) := do
  if !p.isGrouped then return scopes.map (·, none)
  else
    let keyed ← scopes.mapM fun s => (p.groupBy.mapM (p.judge s)).map (·, s)
    let all := if p.groupBy.isEmpty then [scopes] else Scope.groups p.keyOrder isInOrder keyed
    let outcomes ← all.mapM fun g =>
      (Scope.representative? p.judge p.extremes p.blank g).map fun s => (s, some g)
    match p.having with
    | none => return outcomes
    | some e =>
      let kept ← outcomes.mapM fun (s, g) => (p.value? s g e).map fun d => ((s, g), d.holds)
      return (kept.filter (·.2)).map (·.1)

def sorted? (p : ClearPart) (rows : List OutcomeRow) : Option (List OutcomeRow) := do
  if p.orderBy.isEmpty then return rows
  else
    let keys := p.orderBy.map fun c =>
      ((p.wishFor c.expr c.collation c.descending).collation, c.descending)
    let keyed ← rows.mapM fun row =>
      (p.orderBy.mapM fun (c : IndexedColumn) => p.value? row.scope row.group c.expr).map (·, row)
    return OutcomeRow.sortedBy keys keyed

/-- The rows, sorted where that is asked for, and else in the order of the best route; `width` is the
number of results that are shown. -/
def rows? (p : ClearPart) (width : Nat) : Option (List OutcomeRow) := do
  let columns := p.results.map (·.2)
  let _ ← p.results.mapM fun (e, _) => p.value? p.blank (some [p.blank]) e
  let goal := p.goal? width
  let trail ← p.search.route? goal
  let scopes ← Joining.along? p.judge p.search p.sources trail.steps
  let isInOrder := goal.isSome && trail.fulfilled = some p.groupBy.length
  let outcomes ← p.outcomes? isInOrder scopes
  let rows ← outcomes.mapM fun (scope, group) => do
    let data ← p.results.mapM fun (e, _) => p.value? scope group e
    return (⟨data, scope, group⟩ : OutcomeRow)
  p.sorted? (if p.isDistinct then OutcomeRow.withoutRepeats columns rows else rows)

def isWhole (p : ClearPart) : Bool :=
  p.sources.all (·.isWhole)

def mentions (p : ClearPart) : List (Option String × String) :=
  (p.results.map (·.1) ++ p.search.conditions.map (·.expr) ++ p.groupBy ++ p.having.toList
    ++ p.orderBy.map (·.expr)).flatMap Expr.mentions

def outside (p : ClearPart) : List (Option String × String) :=
  p.mentions.filter fun (table, name) => (SourceShape.locate? p.shapes table name).isNone

end ClearPart

namespace Sql.Part

def isPlain (p : Part) (selection : Selection) : Bool :=
  !p.isDistinct && p.groupBy.isEmpty && selection.further.isEmpty && selection.limit.isNone

def shapesOf (p : Part) (sources : List SourceRows) : List SourceShape :=
  let shapes := (sources.zip p.sources).map fun (s, source) => { s.shape with join := source.join }
  let freely := p.condition.toList
    ++ (p.sources.filter (·.join ≠ .outer)).filterMap (·.condition)
  shapes.zipIdx.map fun (s, k) =>
    if s.join = .outer && freely.any (demands shapes k) then { s with join := .free } else s

def stated (p : Part) (shapes : List SourceShape) : List (Option Nat × Expr) :=
  (p.condition.toList.map (none, ·)) ++
    ((p.sources.zip shapes).zipIdx.flatMap fun ((source, s), k) =>
      (source.condition.toList ++ sharedConditions shapes source.sharing k).map fun e =>
        (if s.join = .outer then some k else none, e))

def clear (p : Part) (selection : Selection) (sources : List SourceRows)
    (asked : Option (List String)) (look : Scope → Selection → NestedShape) (ask : Answers)
    (outer : Scope) : ClearPart :=
  let shapes := p.shapesOf sources
  let scope := SourceShape.scope shapes ++ outer
  let look := look scope
  let nested (s : Selection) : Option Column := (ask s scope).bind (·.columns.head?)
  let expanded := (p.results.flatMap (p.expanded shapes)).map fun (name, e, written) =>
    (name, e.described look, written)
  let columns := expanded.map fun (name, e, written) => columnOf scope nested name e written
  let columns := (columns.zip (distinctNames [] (columns.map (·.name)))).map fun (c, name) =>
    { c with name }
  let names := expanded.filterMap fun (name, e, _) => name.map (·, e)
  let plain := expanded.map (·.2.1)
  let stated := (p.stated shapes).map fun (k, e) => (k, withNames names shapes (e.described look))
  let groupBy := p.groupBy.map fun e => grouping names plain shapes (e.described look)
  let having := p.having.map fun e => withNames names shapes (e.described look)
  let orderBy := if selection.further.isEmpty then
      selection.orderBy.map fun c =>
        { c with expr := sorting names plain shapes (c.expr.described look) }
    else []
  let shown := (plain.zip columns).filter fun (_, c) =>
    !p.isPlain selection || (asked.map fun names => names.any (sameName c.name)).getD true
  let mentions := (shown.map (·.1) ++ stated.map (·.2) ++ groupBy ++ having.toList
    ++ orderBy.map (·.expr)).flatMap Expr.mentions
  let usedOf (k : Nat) : List String := mentions.filterMap fun (table, name) =>
    match SourceShape.locate? shapes table name with
    | some (j, _) => if j = k then some name else none
    | none => none
  let shapes := shapes.zipIdx.map fun (s, k) => { s with used := usedOf k }
  { sources := (sources.zip shapes).map fun (s, shape) => { s with shape }
    results := plain.zip columns
    search := { sources := shapes, conditions := Condition.all shapes stated }
    groupBy, having, orderBy, isDistinct := p.isDistinct
    limit := match selection.limit with
      | some (.literal (.int i)) => if 0 ≤ i then some i.toNat else none
      | _ => none
    ask, outer }

end Sql.Part

namespace Sql.View

/-- The parts of a selection up to the first one that looks at the view itself, and the others. -/
def recursion (v : View) : List (Combination × Part) × List (Combination × Part) :=
  v.selection.further.span fun (_, p) => !p.sources.any fun source =>
    match source.origin with
    | .named name => sameName name v.name
    | .selected _ => false

def named? (v : View) (r : Relation) : Option Relation :=
  if v.columns.isEmpty then some r
  else if v.columns.length = r.columns.length then
    some { r with columns := (r.columns.zip v.columns).map fun (c, name) => { c with name } }
  else none

end Sql.View

namespace Relation

/-- Rows and all that follow from them one by one, in the order they are found. If repeats are left out,
a row that was found before does not count. -/
def unfold (isDistinct : Bool) (next : List Datum → Option (List (List Datum))) :
    (room : Nat) → (found queue : List (List Datum)) → Option (List (List Datum))
  | 0, found, _ => some found.reverse
  | _, found, [] => some found.reverse
  | room + 1, found, row :: queue => do
    let more ← next row
    let known := row :: found ++ queue
    let more := if isDistinct then more.eraseDups.filter (!known.contains ·) else more
    unfold isDistinct next room (row :: found) (queue ++ more)

def mostUnfolded : Nat := 20000

end Relation

namespace Database

def bounded {α : Type} (limit offset : Option Int) (rows : List α) : List α :=
  let rows := rows.drop (offset.getD 0).toNat
  match limit with
  | some n => if n < 0 then rows else rows.take n.toNat
  | none => rows

def tableSelection (name : String) : Selection :=
  let source : Source :=
    { origin := .named name, name, join := .free, condition := none, sharing := .nothing }
  { first := { results := [.all none], sources := [source] } }

mutual

/-- The relation of a name. `asked` are the columns that are asked for, if not all are; the order of
the rows may depend on them. -/
def relation? (db : Database) : (depth : Nat) → (name : String) → (asked : Option (List String)) →
    Option Relation
  | 0, _, _ => none
  | depth + 1, name, asked =>
    match db.table? name with
    | some _ => db.selected? depth (tableSelection name) asked []
    | none => do
      let v ← db.view? name
      let (once, again) := v.recursion
      if again.isEmpty then
        (v.named? (← db.selected? depth v.selection (asked.filter fun _ => v.columns.isEmpty) [])).map
          Relation.settled
      else
        let bare (first : Part) (further : List (Combination × Part)) : Selection :=
          { first, further, views := v.selection.views }
        let start ← v.named? (← db.selected? depth (bare v.selection.first once) none [])
        let next (row : List Datum) : Option (List (List Datum)) := do
          let db := db.withGiven v.name { start with rows := [row] }
          let more ← again.mapM fun (c : Combination × Part) =>
            db.selected? depth (bare c.2 []) none []
          return more.flatMap (·.rows)
        let isDistinct := again.any (·.1 = .union)
        let limit := (v.selection.limit.bind (Expr.plainValue? [])).map Datum.toInt
        let offset := (v.selection.offset.bind (Expr.plainValue? [])).map Datum.toInt
        let room := match limit with
          | some n => if n < 0 then Relation.mostUnfolded else (n + offset.getD 0).toNat
          | none => Relation.mostUnfolded
        let rows ← Relation.unfold isDistinct next room []
          (if isDistinct then start.rows.eraseDups else start.rows)
        return { start with rows := bounded limit offset rows }

def source? (db : Database) : (depth : Nat) → Source → (asked : List String) → (outer : Scope) →
    Option SourceRows
  | 0, _, _, _ => none
  | depth + 1, source, asked, outer =>
    match source.origin with
    | .selected s =>
      (db.selected? depth s (some asked) outer).map fun r => .ofRelation r.settled source.name
    | .named name =>
      match db.given? name, db.table? name with
      | some r, _ => some (.ofRelation r source.name)
      | none, some t => some (.ofTable t source.name)
      | none, none => (db.relation? depth name (some asked)).map (.ofRelation · source.name)

def nestedShape (db : Database) : (depth : Nat) → Scope → Selection → NestedShape
  | 0, _, _ => {}
  | depth + 1, scope, s =>
    let parts := (s.first :: s.further.map (·.2)).filterMap fun p =>
      db.clear? depth s p none scope
    let first := (parts.head?.bind (·.results.head?)).map (·.2)
    { affinity := first.bind fun c => if c.isBare then none else some c.affinity
      collation := first.bind fun c => if c.collation = .exact then none else some c.collation
      outside := parts.flatMap (·.outside) }

def clear? (db : Database) : (depth : Nat) → Selection → Part → (asked : Option (List String)) →
    (outer : Scope) → Option ClearPart
  | 0, _, _, _, _ => none
  | depth + 1, selection, p, asked, outer => do
    let db := db.withViews selection.views
    let ask : Answers := fun s scope => db.selected? depth s none scope
    let look (scope : Scope) (s : Selection) : NestedShape := db.nestedShape depth scope s
    let sources ← p.sources.mapM fun source => db.source? depth source [] outer
    let used := (p.clear selection sources asked look ask outer).shapes.map (·.used)
    let sources ← (p.sources.zip (sources.zip used)).mapM fun (source, s, used) =>
      if s.shape.table.isSome then some s else db.source? depth source used outer
    return p.clear selection sources asked look ask outer

def selected? (db : Database) : (depth : Nat) → Selection → (asked : Option (List String)) →
    (outer : Scope) → Option Relation
  | 0, _, _, _ => none
  | depth + 1, selection, asked, outer => do
    let first ← db.clear? depth selection selection.first asked outer
    let width := if selection.first.isPlain selection then
      (asked.map List.length).getD first.results.length else first.results.length
    let columns := first.results.map (·.2)
    let rows ← first.rows? width
    let (rows, isWhole) ← selection.further.foldlM (fun (rows, isWhole) (c, p) => do
      let part ← db.clear? depth selection p asked outer
      let more ← part.rows? part.results.length
      if part.results.length = columns.length then
        some (OutcomeRow.combine columns c rows more, isWhole && part.isWhole)
      else none) (rows, first.isWhole)
    let rows ← if selection.further.isEmpty then some rows
      else OutcomeRow.sorted? columns selection.orderBy rows
    let bound? (e : Option Expr) : Option (Option Int) :=
      e.mapM fun e => (e.evaluate? first.ask outer none).map Datum.toInt
    let rows := bounded (← bound? selection.limit) (← bound? selection.offset) rows
    return ⟨columns, rows.map (·.data), isWhole⟩

end

/-- Deeper than this, views and selections inside others are not followed. -/
def depthBound (db : Database) : Nat :=
  4 * (db.views.length + 25)

def read? (db : Database) (name : String) (asked : Option (List String)) : Option Relation :=
  db.relation? db.depthBound name asked

end Database

end LookupEnums
