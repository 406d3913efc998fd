import LookupEnums.Sql.Definition

/-! # Reading selections

What a view shows: results from the rows of joined tables that fulfil a condition, in groups or one
by one. Several such parts may be combined, and put in an order. Selections stand in others in
parentheses; the number of tokens bounds how deep. -/

namespace LookupEnums.Sql

section

-- How a selection inside is read.
variable (inner? : List Lexeme → Option (Selection × List Lexeme))

namespace Result

def givenName? (s : List Lexeme) : Option (String × List Lexeme) :=
  match afterKeywords? ["AS"] s with
  | some s => name? s
  | none => name? s

def expression? (s : List Lexeme) : Option (Result × List Lexeme) := do
  let (e, rest) ← Expr.ofLexemes? inner? s
  let written := writtenText (s.take (s.length - rest.length))
  match givenName? rest with
  | some (name, rest) => return (single e (some name) written, rest)
  | none => return (single e none written, rest)

def read? (s : List Lexeme) : Option (Result × List Lexeme) :=
  match s with
  | a :: rest =>
    if a.isMark "*" then some (all none, rest)
    else match rest with
      | b :: c :: more =>
        if b.isMark "." && c.isMark "*" then a.name?.map fun t => (all (some t), more)
        else expression? inner? s
      | _ => expression? inner? s
  | [] => none

def list? : (room : Nat) → List Lexeme → Option (List Result × List Lexeme)
  | 0, _ => none
  | room + 1, s => do
    let (r, s) ← read? inner? s
    match afterMark? "," s with
    | some s =>
      let (more, s) ← list? room s
      return (r :: more, s)
    | none => return ([r], s)

end Result

def namesInParentheses (s : List Lexeme) : List String × List Lexeme :=
  match afterMark? "(" s with
  | some inside =>
    let after := afterClosing 0 inside
    ((inside.take (inside.length - after.length)).filterMap Lexeme.name?, after)
  | none => ([], s)

namespace Source

/-- Words that cannot be the name of a source without `AS`. -/
def endsSource (l : Lexeme) : Bool :=
  ["LEFT", "INNER", "CROSS", "NATURAL", "RIGHT", "FULL", "INDEXED"].any l.isKeyword

def alias? (s : List Lexeme) : Option (String × List Lexeme) :=
  match afterKeywords? ["AS"] s with
  | some s => name? s
  | none => match s with
    | l :: rest => if endsSource l then none else l.name?.map (·, rest)
    | [] => none

/-- A selection in parentheses, or a table, perhaps of the main schema; and the name it goes by. -/
def origin? (s : List Lexeme) : Option (Origin × String × List Lexeme) := do
  match (afterMark? "(" s).bind (Expr.enclosed? inner?) with
  | some (selection, s) =>
    let (name, s) := (alias? s).getD ("", s)
    return (.selected selection, name, s)
  | none =>
    let (first, s) ← name? s
    let (table, s) ← match afterMark? "." s with
      | some s => if sameName first "main" then name? s else none
      | none => some (first, s)
    let (name, s) := (alias? s).getD (table, s)
    return (.named table, name, s)

def joinWords : List (List String × JoinKind) :=
  [(["JOIN"], .free), (["INNER", "JOIN"], .free), (["CROSS", "JOIN"], .fixed),
    (["LEFT", "JOIN"], .outer), (["LEFT", "OUTER", "JOIN"], .outer)]

def afterJoin? (s : List Lexeme) : Option (JoinKind × Bool × List Lexeme) :=
  match afterMark? "," s with
  | some s => some (.free, false, s)
  | none =>
    let (isNatural, s) := match afterKeywords? ["NATURAL"] s with
      | some s => (true, s)
      | none => (false, s)
    joinWords.findSome? fun (words, kind) => (afterKeywords? words s).map (kind, isNatural, ·)

def condition? (s : List Lexeme) : Option (Option Expr × List Lexeme) :=
  match afterKeywords? ["ON"] s with
  | some s => (Expr.ofLexemes? inner? s).map fun (e, s) => (some e, s)
  | none => some (none, s)

def list? : (room : Nat) → JoinKind → (isNatural : Bool) → List Lexeme →
    Option (List Source × List Lexeme)
  | 0, _, _, _ => none
  | room + 1, join, isNatural, s => do
    let (origin, name, s) ← origin? inner? s
    let (condition, s) ← condition? inner? s
    let (shared, s) := match afterKeywords? ["USING"] s with
      | some s => namesInParentheses s
      | none => ([], s)
    let sharing := if isNatural then .everything
      else if shared.isEmpty then .nothing else .columns shared
    let source : Source := { origin, name, join, condition, sharing }
    match afterJoin? s with
    | some (join, isNatural, s) =>
      let (more, s) ← list? room join isNatural s
      return (source :: more, s)
    | none => return ([source], s)

end Source

def clause? (keywords : List String) (s : List Lexeme) : Option (Option Expr × List Lexeme) :=
  match afterKeywords? keywords s with
  | some s => (Expr.ofLexemes? inner? s).map fun (e, s) => (some e, s)
  | none => some (none, s)

def exprs? : (room : Nat) → List Lexeme → Option (List Expr × List Lexeme)
  | 0, _ => none
  | room + 1, s => do
    let (e, s) ← Expr.ofLexemes? inner? s
    match afterMark? "," s with
    | some s =>
      let (more, s) ← exprs? room s
      return (e :: more, s)
    | none => return ([e], s)

namespace Part

def selected? (s : List Lexeme) : Option (Part × List Lexeme) := do
  let (isDistinct, s) := match afterKeywords? ["DISTINCT"] s with
    | some s => (true, s)
    | none => (false, skipKeywords ["ALL"] s)
  let (results, s) ← Result.list? inner? (s.length + 1) s
  let (sources, s) ← match afterKeywords? ["FROM"] s with
    | some s => Source.list? inner? (s.length + 1) .free false s
    | none => some ([], s)
  let (condition, s) ← clause? inner? ["WHERE"] s
  let (groupBy, s) ← match afterKeywords? ["GROUP", "BY"] s with
    | some s => exprs? inner? (s.length + 1) s
    | none => some ([], s)
  let (having, s) ← clause? inner? ["HAVING"] s
  return ({ isDistinct, results, sources, condition, groupBy, having }, s)

def ofData (data : List Expr) : Part :=
  { results := data.zipIdx.map fun (e, k) => .single e (some s!"column{k + 1}") "" }

def rows? : (room : Nat) → List Lexeme → Option (List Part × List Lexeme)
  | 0, _ => none
  | room + 1, s => do
    let s ← afterMark? "(" s
    let (data, s) ← exprs? inner? (s.length + 1) s
    let s ← afterMark? ")" s
    match afterMark? "," s with
    | some s =>
      let (more, s) ← rows? room s
      return (ofData data :: more, s)
    | none => return ([ofData data], s)

def read? (s : List Lexeme) : Option (Part × List Part × List Lexeme) := do
  match afterKeywords? ["SELECT"] s with
  | some s => (selected? inner? s).map fun (p, s) => (p, [], s)
  | none =>
    let s ← afterKeywords? ["VALUES"] s
    let (parts, s) ← rows? inner? (s.length + 1) s
    return (← parts.head?, parts.tail, s)

end Part

namespace Selection

def combination? (s : List Lexeme) : Option (Combination × List Lexeme) :=
  ((afterKeywords? ["UNION", "ALL"] s).map (.unionAll, ·)).or <|
  ((afterKeywords? ["UNION"] s).map (.union, ·)).or <|
  ((afterKeywords? ["EXCEPT"] s).map (.except, ·)).or <|
  ((afterKeywords? ["INTERSECT"] s).map (.intersection, ·))

def further? : (room : Nat) → List Lexeme → Option (List (Combination × Part) × List Lexeme)
  | 0, _ => none
  | room + 1, s => do
    match combination? s with
    | some (c, s) =>
      let (p, rows, s) ← Part.read? inner? s
      let (more, s) ← further? room s
      return ((c, p) :: rows.map (.unionAll, ·) ++ more, s)
    | none => return ([], s)

def order? : (room : Nat) → List Lexeme → Option (List IndexedColumn × List Lexeme)
  | 0, _ => none
  | room + 1, s => do
    let (e, s) ← Expr.ofLexemes? inner? s
    let (descending, s) := match afterKeywords? ["DESC"] s with
      | some s => (true, s)
      | none => (false, skipKeywords ["ASC"] s)
    let column := { IndexedColumn.ofExpr e with descending }
    match afterMark? "," s with
    | some s =>
      let (more, s) ← order? room s
      return (column :: more, s)
    | none => return ([column], s)

def views? : (room : Nat) → List Lexeme → Option (List View × List Lexeme)
  | 0, _ => none
  | room + 1, s => do
    let (name, s) ← name? s
    let (columns, s) := namesInParentheses s
    let s ← afterKeywords? ["AS"] s
    let s := skipKeywords ["MATERIALIZED"] (skipKeywords ["NOT"] s)
    let (selection, s) ← Expr.enclosed? inner? (← afterMark? "(" s)
    match afterMark? "," s with
    | some s =>
      let (more, s) ← views? room s
      return (⟨name, columns, selection⟩ :: more, s)
    | none => return ([⟨name, columns, selection⟩], s)

/-- The most rows and how many are left out before them, which may also be written the other way
round. -/
def bounds? (s : List Lexeme) : Option (Option Expr × Option Expr × List Lexeme) := do
  let (limit, s) ← clause? inner? ["LIMIT"] s
  match limit.bind fun _ => afterMark? "," s with
  | some s =>
    let (e, s) ← Expr.ofLexemes? inner? s
    return (some e, limit, s)
  | none =>
    let (offset, s) ← clause? inner? ["OFFSET"] s
    return (limit, offset, s)

def body? (s : List Lexeme) : Option (Selection × List Lexeme) := do
  let (views, s) ← match afterKeywords? ["WITH"] s with
    | some s => views? inner? (s.length + 1) (skipKeywords ["RECURSIVE"] s)
    | none => some ([], s)
  let (first, rows, s) ← Part.read? inner? s
  let (further, s) ← further? inner? (s.length + 1) s
  let (orderBy, s) ← match afterKeywords? ["ORDER", "BY"] s with
    | some s => order? inner? (s.length + 1) s
    | none => some ([], s)
  let (limit, offset, s) ← bounds? inner? s
  return ({ views, first, further := rows.map (.unionAll, ·) ++ further, orderBy, limit, offset }, s)

end Selection

end

namespace Selection

def read? : (depth : Nat) → List Lexeme → Option (Selection × List Lexeme)
  | 0, _ => none
  | depth + 1, s => body? (read? depth) s

def ofLexemes? (s : List Lexeme) : Option Selection :=
  match read? (s.length + 1) s with
  | some (selection, rest) => if rest.all (·.isMark ";") then some selection else none
  | none => none

end Selection

namespace View

def ofStatement? (name statement : String) : Option View := do
  let s ← afterKeywords? ["CREATE", "VIEW"] (lexemes statement)
  let (_, s) ← name? s
  let (columns, s) := namesInParentheses s
  return { name, columns, selection := ← Selection.ofLexemes? (← afterKeywords? ["AS"] s) }

end View

end LookupEnums.Sql
