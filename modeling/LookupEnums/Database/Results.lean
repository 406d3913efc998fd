import LookupEnums.Database.Joined

/-! # Results

The columns a selection shows, what its names stand for, and the groups that its rows fall into. -/

namespace LookupEnums
open Sql Route

namespace Sql.Part

/-- The columns that the source at a place shares with those before it, each with the first source that
has it. -/
def shared (shapes : List SourceShape) (sharing : Sharing) (source : Nat) : List (String × Nat) :=
  let before (name : String) : Option Nat :=
    ((shapes.take source).zipIdx.find? fun (s, _) => s.columns.any (sameName name ·.name)).map (·.2)
  let names : List String := match sharing with
    | .nothing => []
    | .columns names => names
    | .everything => ((shapes[source]?).map fun s => s.columns.map (·.name)).getD []
  names.filterMap fun name => (before name).map (name, ·)

def sharedConditions (shapes : List SourceShape) (sharing : Sharing) (source : Nat) : List Expr :=
  (shared shapes sharing source).filterMap fun (name, k) => do
    let first ← shapes[k]?
    let second ← shapes[source]?
    return .binary .equal (.column (some first.name) name false) (.column (some second.name) name false)

/-- A result by its name and expression, in place of all columns one for each; a shared column is shown
once. -/
def expanded (p : Part) (shapes : List SourceShape) : Result → List (Option String × Expr × String)
  | .single e name written => [(name, e, written)]
  | .all table => (shapes.zipIdx.filter fun (s, _) => table.all (sameName s.name)).flatMap fun (s, k) =>
    let repeated := if table.isSome then []
      else shared shapes (((p.sources[k]?).map (·.sharing)).getD .nothing) k
    (s.columns.filter fun c => !repeated.any fun r => sameName r.1 c.name).map fun c =>
      (none, .column (if s.name.isEmpty then none else some s.name) c.name false, c.name)

def distinctName (before : List String) (name : String) : (room n : Nat) → String
  | 0, _ => name
  | room + 1, n =>
    let candidate := if n = 0 then name else s!"{name}:{n}"
    if before.any (sameName candidate) then distinctName before name room (n + 1) else candidate

def distinctNames : (before : List String) → List String → List String
  | _, [] => []
  | before, name :: rest =>
    let name := distinctName before name (before.length + 1) 0
    name :: distinctNames (before ++ [name]) rest

/-- The column that shows an expression. -/
def columnOf (scope : Scope) (nested : Selection → Option Column) (name : Option String) (e : Expr)
    (written : String) : Column :=
  let collation := ((e.collation? scope).map (·.2)).getD .exact
  let affinity := (e.affinity? scope).getD .unchanged
  let isBare := (e.affinity? scope).isNone
  match e with
  | .column table own _ => match scope.find? table own with
    | some (c, _) => { c with name := name.getD c.name, collation, notNull := false }
    | none => { name := name.getD own, affinity, collation, isBare }
  | .nested s _ => match nested s with
    | some c => { c with name := name.getD written, collation, notNull := false }
    | none => { name := name.getD written, affinity, collation, isBare }
  | _ => { name := name.getD written, affinity, collation, isBare }

abbrev Names := List (String × Expr)

def named? (names : Names) (name : String) : Option Expr :=
  (List.find? (fun (p : String × Expr) => sameName p.1 name) names).map Prod.snd

def withNames (names : Names) (sources : List SourceShape) (e : Expr) : Expr :=
  e.replaced fun table name =>
    if table.isSome || (SourceShape.locate? sources none name).isSome then none
    else named? names name

def grouping (names : Names) (results : List Expr) (sources : List SourceShape) (e : Expr) : Expr :=
  match e with
  | .literal (.int i) => if 1 ≤ i then (results[(i - 1).toNat]?).getD e else e
  | e => withNames names sources e

def sorting (names : Names) (results : List Expr) (sources : List SourceShape) (e : Expr) : Expr :=
  let byName := match e.withoutCollation with
    | .column none name _ => named? names name
    | _ => none
  byName.getD (grouping names results sources e)

/-- Whether a source without a partner for some row can be left out, because a condition cannot hold
without it. -/
def demands (sources : List SourceShape) (source : Nat) (e : Expr) : Bool :=
  e.conjuncts.any fun c => match c.withoutCollation with
    | .binary .different a (.literal .null) => reaches a
    | c => reaches c
where
  /-- Whether an expression is empty when the source is. -/
  reaches : Expr → Bool
    | .column table name _ =>
      ((SourceShape.locate? sources table name).map (·.1)) = some source
    | .unary _ e | .cast e _ | .collated e _ => reaches e
    | .binary .and a b => reaches a && reaches b
    | .binary .or _ _ | .binary .same _ _ | .binary .different _ _ => false
    | .binary _ a b => reaches a || reaches b
    | _ => false

end Sql.Part

namespace Sql.Scope

/-- The row that stands for a group: the first, or the one that the last of some extremes is taken
from. -/
def representative? (judge : Judge) (extremes : List (String × Expr)) (blank : Scope) (group : List Scope) :
    Option Scope := do
  match extremes.getLast? with
  | none => return group.headD blank
  | some (function, e) =>
    let collation := ((e.collation? blank).map (·.2)).getD .exact
    let wanted : Ordering := if function = "max" then .gt else .lt
    let (_, chosen) ← group.foldlM (fun (best, chosen) s => do
      let d ← judge s e
      return if best.isNull || (!d.isNull && d.order collation best == wanted) then (d, s)
        else (best, chosen)) ((.null : Datum), group.headD blank)
    return chosen

/-- Rows with equal keys together; rows that do not come in the order of their keys are sorted. -/
def groups (order : List Datum → List Datum → Ordering) (isSorted : Bool)
    (keyed : List (List Datum × Scope)) : List (List Scope) :=
  let sorted := if isSorted then keyed else keyed.mergeSort fun a b => order a.1 b.1 != .gt
  sorted.foldr (fun (key, s) groups => match groups with
    | (k, scopes) :: rest => if order key k == .eq then (k, s :: scopes) :: rest
      else (key, [s]) :: (k, scopes) :: rest
    | [] => [(key, [s])]) ([] : List (List Datum × List Scope)) |>.map (·.2)

end Sql.Scope

end LookupEnums
