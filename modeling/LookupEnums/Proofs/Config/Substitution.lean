import LookupEnums.Proofs.Config.Segments
import LookupEnums.Value.Basic

/-! # What substitution yields

Substitution fails with the first variable that has neither a value nor a default. Otherwise each
text of the value is its plain characters and what is put in for its variables, and the rest of the
value stays as it is.
-/

namespace LookupEnums.Value

mutual

/-- The texts of a value in their order; the keys of a dictionary are not among them. -/
def texts : Value → List String
  | text s => [s]
  | list items => textsOfItems items
  | dict entries => textsOfEntries entries
  | _ => []

def textsOfItems : List Value → List String
  | [] => []
  | v :: rest => v.texts ++ textsOfItems rest

def textsOfEntries : List (Value × Value) → List String
  | [] => []
  | (_, v) :: rest => v.texts ++ textsOfEntries rest

end

mutual

def mapTexts (f : String → String) : Value → Value
  | text s => text (f s)
  | list items => list (mapTextsOfItems f items)
  | dict entries => dict (mapTextsOfEntries f entries)
  | v => v

def mapTextsOfItems (f : String → String) : List Value → List Value
  | [] => []
  | v :: rest => v.mapTexts f :: mapTextsOfItems f rest

def mapTextsOfEntries (f : String → String) : List (Value × Value) → List (Value × Value)
  | [] => []
  | (k, v) :: rest => (k, v.mapTexts f) :: mapTextsOfEntries f rest

end

variable (f : String → String)

theorem mapTextsOfItems_eq (items : List Value) :
    mapTextsOfItems f items = items.map (mapTexts f) := by
  induction items with
  | nil => rfl
  | cons v rest ih => rw [mapTextsOfItems, ih, List.map_cons]

end LookupEnums.Value

namespace LookupEnums.Substitution

variable {α β γ : Type} (env : Environment)

def Segment.unset? : Segment → Option String
  | .plain _ => none
  | .variable x =>
    match env.lookup (String.ofList x.name), x.fallback with
    | none, none => some (String.ofList x.name)
    | _, _ => none

/-- What stands for a segment: the value of a variable, or else its default. -/
def Segment.inserted : Segment → List Char
  | .plain c => [c]
  | .variable x =>
    match env.lookup (String.ofList x.name) with
    | some value => value.toList
    | none => x.fallback.getD []

def orUnset (segs : List Segment) (a : α) : Except ConfigError α :=
  match segs.findSome? (Segment.unset? env) with
  | some name => .error (.unsetVariable name)
  | none => .ok a

theorem orUnset_map (segs : List Segment) (a : α) (f : α → β) :
    (orUnset env segs a).map f = orUnset env segs (f a) := by
  unfold orUnset
  cases segs.findSome? (Segment.unset? env) <;> rfl

/-- The first of two steps that misses a variable is the one that fails. -/
theorem orUnset_bind (segs segs' : List Segment) (a : α) (b : β) (f : α → β → γ) :
    (orUnset env segs a >>= fun a => orUnset env segs' b >>= fun b => pure (f a b)) =
      orUnset env (segs ++ segs') (f a b) := by
  unfold orUnset
  rw [List.findSome?_append]
  cases segs.findSome? (Segment.unset? env) with
  | some name => rfl
  | none => cases segs'.findSome? (Segment.unset? env) <;> rfl

theorem replacement_eq (seg : Segment) :
    replacement env seg = orUnset env [seg] (seg.inserted env) := by
  rcases seg with c | ⟨name, fallback⟩
  · rfl
  · unfold replacement orUnset
    cases hlookup : env.lookup (String.ofList name) <;> cases fallback <;>
      simp [Segment.unset?, Segment.inserted, hlookup]

theorem mapM_replacement (segs : List Segment) :
    segs.mapM (replacement env) = orUnset env segs (segs.map (Segment.inserted env)) := by
  induction segs with
  | nil => rfl
  | cons seg segs ih =>
    rw [List.mapM_cons, replacement_eq, ih]
    exact orUnset_bind env [seg] segs _ _ List.cons

def rewritten (s : String) : String :=
  String.ofList ((segments s.toList).flatMap (Segment.inserted env))

theorem inText_eq (s : String) : inText env s = orUnset env (segments s.toList) (rewritten env s) := by
  rw [inText, mapM_replacement, orUnset_map, ← List.flatMap_def]
  rfl

def segmentsOf (texts : List String) : List Segment :=
  texts.flatMap fun s => segments s.toList

theorem segmentsOf_append (texts texts' : List String) :
    segmentsOf (texts ++ texts') = segmentsOf texts ++ segmentsOf texts' :=
  List.flatMap_append

mutual

theorem inValue_eq (v : Value) :
    inValue env v = orUnset env (segmentsOf v.texts) (v.mapTexts (rewritten env)) := by
  cases v with
  | text s =>
    rw [inValue, inText_eq, orUnset_map]
    simp [Value.texts, Value.mapTexts, segmentsOf]
  | list items => rw [inValue, inItems_eq, orUnset_map, Value.texts, Value.mapTexts]
  | dict entries => rw [inValue, inEntries_eq, orUnset_map, Value.texts, Value.mapTexts]
  | null | bool | int | float | decimal | bytes | date | moment | time | span | uuid => rfl

theorem inItems_eq (items : List Value) :
    inItems env items = orUnset env (segmentsOf (Value.textsOfItems items))
      (Value.mapTextsOfItems (rewritten env) items) := by
  cases items with
  | nil => rfl
  | cons v rest =>
    rw [inItems, inValue_eq, inItems_eq, Value.textsOfItems, Value.mapTextsOfItems,
      segmentsOf_append]
    exact orUnset_bind env _ _ _ _ List.cons

theorem inEntries_eq (entries : List (Value × Value)) :
    inEntries env entries = orUnset env (segmentsOf (Value.textsOfEntries entries))
      (Value.mapTextsOfEntries (rewritten env) entries) := by
  cases entries with
  | nil => rfl
  | cons entry rest =>
    obtain ⟨k, v⟩ := entry
    rw [inEntries, inValue_eq, inEntries_eq, Value.textsOfEntries, Value.mapTextsOfEntries,
      segmentsOf_append]
    exact orUnset_bind env _ _ _ _ fun v rest => (k, v) :: rest

end

end LookupEnums.Substitution
