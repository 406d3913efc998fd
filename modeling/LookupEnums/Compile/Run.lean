import LookupEnums.Compile.Error
import LookupEnums.Compile.Table
import LookupEnums.Mapping.Basic

/-! # Compiling a plan

Tables are compiled in their order, and before that on demand where another table returns their
type. A type that is asked for while it is being compiled closes a cycle.
-/

namespace LookupEnums

/-- The first mapping whose type an earlier one declares already. -/
def firstRepeat? : (seen : List String) → List TableMapping → Option TableMapping
  | _, [] => none
  | seen, m :: rest =>
    if seen.contains m.typeName then some m else firstRepeat? (m.typeName :: seen) rest

theorem nodup_of_firstRepeat?_eq_none {seen : List String} {ms : List TableMapping}
    (h : firstRepeat? seen ms = none) :
    (ms.map (·.typeName)).Nodup ∧ ∀ m ∈ ms, m.typeName ∉ seen := by
  induction ms generalizing seen with
  | nil => simp
  | cons m rest ih =>
    unfold firstRepeat? at h
    split at h
    · simp at h
    next hm =>
      have ⟨hn, hs⟩ := ih h
      simp only [List.contains_eq_mem, decide_eq_true_eq] at hm
      refine ⟨?_, ?_⟩
      · simp only [List.map_cons, List.nodup_cons, List.mem_map, not_exists, not_and]
        exact ⟨fun x hx he => hs x hx (by simp [he]), hn⟩
      · intro x hx
        rcases List.mem_cons.mp hx with rfl | hx
        · exact hm
        · exact fun hmem => hs x hx (List.mem_cons_of_mem _ hmem)

structure Plan where
  mappings : List TableMapping
  distinct : (mappings.map (·.typeName)).Nodup

namespace Plan

def ofMappings (ms : List TableMapping) : Except CompileError Plan :=
  match h : firstRepeat? [] ms with
  | some m => .error (.duplicateType m.typeName m.table)
  | none => .ok ⟨ms, (nodup_of_firstRepeat?_eq_none h).1⟩

def typeNames (p : Plan) : List String :=
  p.mappings.map (·.typeName)

def mapping? (p : Plan) (typeName : String) : Option TableMapping :=
  p.mappings.find? (·.typeName = typeName)

end Plan

namespace Compile

def cycleFrom (name : String) (compiling : List String) : List String :=
  compiling.dropWhile (· ≠ name) ++ [name]

def compileTable (onDemand : String → Compile Unit) (m : TableMapping) : Compile Unit := do
  note [.compiling m.table m.typeName]
  let d ← liftExcept m.requireData
  fill onDemand m d

/-- Compiles the table of a type unless it is finished. Names no table declares are passed over.
`room` bounds the depth of tables that ask for each other: since the stack holds no type twice,
one more than the number of tables is never used up. -/
def requireWithin (p : Plan) : (room : Nat) → String → Compile Unit
  | 0, _ => pure ()
  | room + 1, name =>
    match p.mapping? name with
    | none => pure ()
    | some m => do
      let s ← get
      if s.completed.contains name then pure ()
      else if s.compiling.contains name then throw (.cycle (cycleFrom name s.compiling))
      else
        during name (compileTable (requireWithin p room) m)
        complete name

def require (p : Plan) (name : String) : Compile Unit :=
  requireWithin p (p.mappings.length + 1) name

def compileAll (p : Plan) : Compile Unit := do
  p.typeNames.forM (require p)
  note [.compiled (← get).completed.length]

end Compile

namespace Plan

def compile (p : Plan) : EStateM.Result CompileError Session Unit :=
  (Compile.compileAll p).run {}

end Plan

end LookupEnums
