import LookupEnums.Proofs.Compile.Invariant

/-! # A table at work

The table on top of the stack is compiled as far as its draft says. A step for it changes the draft
and nothing of any other table, or it fails for a reason that lies in the plan: then the table
cannot be compiled at all.
-/
namespace LookupEnums.Plan
open Compile

def Loaded (p : Plan) : Prop :=
  ∀ m ∈ p.mappings, ∀ d, m.data = some d → ∀ row ∈ d.rows, ∀ c ∈ m.columns,
    (row.cells.lookup c.column).isSome

/-- Every key and every mapped cell of every table can be a key. -/
def Hashable (p : Plan) : Prop :=
  ∀ m ∈ p.mappings, ∀ d, m.data = some d → ∀ row ∈ d.rows, row.key.usableAsKey = true ∧
    ∀ c ∈ m.columns, ∀ raw, row.cells.lookup c.column = some raw → raw.usableAsKey = true

instance (p : Plan) : Decidable p.Loaded :=
  inferInstanceAs (Decidable (∀ m ∈ p.mappings, ∀ d ∈ m.data, ∀ row ∈ d.rows, ∀ c ∈ m.columns,
    (row.cells.lookup c.column).isSome))

instance (p : Plan) : Decidable p.Hashable :=
  inferInstanceAs (Decidable (∀ m ∈ p.mappings, ∀ d ∈ m.data, ∀ row ∈ d.rows,
    row.key.usableAsKey = true ∧
      ∀ c ∈ m.columns, ∀ raw ∈ row.cells.lookup c.column, raw.usableAsKey = true))

/-- What an error says of the plan is so: a cycle is one, and a key or a cell that was of no use
is among the tables. -/
def Justifies (p : Plan) : CompileError → Prop
  | .cycle path => p.IsCycle path
  | .unusableKey _ => ¬ p.Hashable
  | .missingCell _ => ¬ p.Loaded
  | _ => True

structure Fails (p : Plan) (m : TableMapping) (kept : List String) (s : Session)
    (e : CompileError) (u : Session) : Prop where
  inv : p.Inv u
  grown : s.Extends kept u
  not_compilable : ¬ p.Compilable m
  justified : p.Justifies e

structure Table (p : Plan) (m : TableMapping) (d : TableData) (keyType : StorageType) : Prop where
  mem : m ∈ p.mappings
  wellFormed : m.WellFormed
  data : m.data = some d
  key : d.storageType? m.key = some keyType

/-- A table on top of the stack, compiled as far as a draft says. -/
structure Working (p : Plan) (m : TableMapping) (d : TableData) (keyType : StorageType)
    (base : List String) (s : Session) (w : Draft) (u : Session) : Prop where
  inv : p.Inv u
  grown : s.Extends base u
  stack : u.compiling = base ++ [m.typeName]
  begun : u.Begun m.typeName
  fits : w.Fits p m d u.completed
  part : u.env.part m.typeName = w.part m d keyType

variable {p : Plan} {m : TableMapping} {d : TableData} {keyType : StorageType} {base : List String}
  {s u : Session} {w w' : Draft}

theorem Table.not_compilable (T : p.Table m d keyType) (h : ¬ p.Fits m d) : ¬ p.Compilable m :=
  fun hc => h (hc.fits T.data)

namespace Working

theorem mem_stack (h : p.Working m d keyType base s w u) : m.typeName ∈ u.compiling := by
  rw [h.stack]
  simp

theorem change (h : p.Working m d keyType base s w u) (T : p.Table m d keyType) {env : TypeEnv}
    (hadmits : p.Admits env) (hgrow : StagesGrow u.env env)
    (hothers : ∀ t, t ≠ m.typeName → env.part t = u.env.part t)
    (hpart : env.part m.typeName = w'.part m d keyType) (hfits : w'.Fits p m d u.completed) :
    p.Working m d keyType base s w' { u with env } where
  inv := h.inv.change T.mem T.data T.key (h.inv.opened _ h.mem_stack) h.begun hadmits hgrow hothers
    hpart hfits
  grown := h.grown.trans ⟨rfl, List.prefix_refl _, List.prefix_refl _,
    fun t ht => hothers t fun he => h.inv.not_mem_base h.stack (he ▸ ht), hgrow⟩
  stack := h.stack
  begun := h.begun
  fits := hfits
  part := hpart

/-- Events other than the start of a table leave everything as it is. -/
theorem note (h : p.Working m d keyType base s w u) (events : List CompileEvent)
    (hevents : ∀ table t, CompileEvent.compiling table t ∉ events) :
    p.Working m d keyType base s w { u with journal := u.journal ++ events } where
  inv := h.inv.note hevents
  grown := h.grown.trans ⟨rfl, List.prefix_refl _, List.prefix_append _ _, fun _ _ => rfl,
    StagesGrow.refl _⟩
  stack := h.stack
  begun := by
    obtain ⟨table, htable⟩ := h.begun
    exact ⟨table, List.mem_append_left _ htable⟩
  fits := h.fits
  part := h.part

/-- A table that cannot be compiled may fail at any moment. -/
theorem fails (h : p.Working m d keyType base s w u) {e : CompileError} (hnot : ¬ p.Compilable m)
    (he : p.Justifies e) : p.Fails m base s e u :=
  ⟨h.inv, h.grown, hnot, he⟩

/-- The accessor of a declared column as the environment holds it. -/
theorem accessor?_eq (h : p.Working m d keyType base s w u) (T : p.Table m d keyType)
    {c : ColumnMapping} (hc : c ∈ w.columns) :
    u.env.accessor? (m.accessorId c) = some (w.accessor m d c) := by
  change (u.env.part m.typeName).accessor c.accessor = _
  rw [h.part, Draft.part_accessor (h.fits.nodup T.wellFormed) hc]

theorem enum?_eq (h : p.Working m d keyType base s w u) :
    u.env.enum? m.typeId = some (w.enum m keyType) := by
  change (u.env.part m.typeName).enum = _
  rw [h.part]
  rfl

end Working

end LookupEnums.Plan
