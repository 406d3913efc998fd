import LookupEnums.Proofs.Compile.Requiring

/-! # When a plan compiles

A plan compiles exactly if each table is consistent in itself and with the tables it refers to, and
no references close a cycle. Which table comes first does not matter, nor does a table without rows
excuse the tables it refers to.
-/
namespace LookupEnums
open Compile

/-- The errors a compilation raises by itself; the others are those of rows that were not loaded as
they should be. -/
def CompileError.IsOwn : CompileError → Prop
  | .unusableKey _ | .missingCell _ => False
  | _ => True

namespace Plan
variable {p : Plan} {m : TableMapping} {d : TableData}

/-- What the data of a table has to be, for the table itself and for the tables it refers to. Cells
of a column that is read by a cast are not looked up. -/
structure Consistent (p : Plan) (m : TableMapping) (d : TableData) : Prop where
  key : (d.storageType? m.key).isSome
  columns : ∀ c ∈ m.columns, (d.storageType? c.column).isSome
  named : ∀ row ∈ d.rows, row.memberName ≠ ""
  names : (d.rows.map Row.memberName).Nodup
  keys : d.rows.Pairwise fun a b => a.key.sameKey b.key = false
  cells : ∀ c ∈ m.columns, m.coerces d c = false → p.maps (d.returnName c) = true →
    ∀ row ∈ d.rows, ∀ raw, row.cells.lookup c.column = some raw → raw.isNull = false →
      ∃ target ∈ p.rowsOf (d.returnName c), target.key.sameKey raw = true

theorem fits_iff_consistent (hm : m ∈ p.mappings) (hdata : m.data = some d) (hloaded : p.Loaded)
    (hhashable : p.Hashable) : p.Fits m d ↔ p.Consistent m d := by
  have hfound : ∀ name raw, p.rowsUnder name raw ≠ [] ↔
      ∃ target ∈ p.rowsOf name, target.key.sameKey raw = true := by
    intro name raw
    rw [Ne, rowsUnder_eq_nil]
    simp
  constructor
  · intro h
    refine ⟨h.key, h.columns, h.rows.named, h.rows.names, h.rows.keys, ?_⟩
    intro c hc hcoerces hmaps row hrow raw hraw hsome
    obtain ⟨raw', hraw', hfits⟩ := h.cells row hrow c hc hcoerces
    rw [hraw] at hraw'
    obtain rfl := Option.some.inj hraw'
    exact (hfound _ _).mp (hfits hmaps hsome).2
  · intro h
    refine ⟨h.key, h.columns, ⟨h.named, h.names, fun row hrow => (hhashable m hm d hdata row hrow).1,
      h.keys⟩, ?_⟩
    intro row hrow c hc hcoerces
    obtain ⟨raw, hraw⟩ := Option.isSome_iff_exists.mp (hloaded m hm d hdata row hrow c hc)
    refine ⟨raw, hraw, fun hmaps hsome => ⟨(hhashable m hm d hdata row hrow).2 c hc raw hraw, ?_⟩⟩
    exact (hfound _ _).mpr (h.cells c hc hcoerces hmaps row hrow raw hraw hsome)

/-- All tables are compilable if there is no cycle and each fits. -/
theorem forall_compilable_iff : (∀ m ∈ p.mappings, p.Compilable m) ↔
    p.Acyclic ∧ ∀ m ∈ p.mappings, ∃ d, m.data = some d ∧ p.Fits m d := by
  constructor
  · intro h
    refine ⟨?_, ?_⟩
    · intro t hcycle
      obtain ⟨_, hstep, -⟩ := Relation.TransGen.head'_iff.mp hcycle
      obtain ⟨m, hm, rfl⟩ := List.mem_map.mp (maps_iff.mp hstep.maps_left)
      exact (h m hm).not_cyclic hm Relation.ReflTransGen.refl hcycle
    · intro m hm
      obtain ⟨hdata, hfits, -⟩ := h m hm
      exact ⟨_, hdata, hfits⟩
  · rintro ⟨hacyclic, hfits⟩ m hm
    -- the references end, so the tables a table refers to come first
    have hall : ∀ m', p.mapping? m.typeName = some m' → p.Compilable m' := by
      refine hacyclic.induction (motive := fun t => ∀ m', p.mapping? t = some m' → p.Compilable m')
        ?_ (maps_typeName hm)
      intro t _ ih m' hm'
      obtain ⟨hmem, rfl⟩ := mapping?_eq_some.mp hm'
      obtain ⟨d, hdata, hfit⟩ := hfits m' hmem
      refine Compilable.intro hdata hfit ?_
      intro c hc target htarget
      have hmaps : p.maps (d.returnName c) = true := Option.isSome_iff_exists.mpr ⟨target, htarget⟩
      exact ih _ (refers_of_column hmem hdata hc (hfit.columns c hc) hmaps) target htarget
    exact hall m (mapping?_typeName hm)

theorem exists_compile_iff (hw : ∀ m ∈ p.mappings, m.WellFormed) :
    (∃ s, p.compile = .ok () s) ↔ ∀ m ∈ p.mappings, p.Compilable m := by
  have hends := ends_compileAll hw (Idle.start p)
  cases hrun : p.compile with
  | ok _ s =>
    obtain ⟨hidle, -, hdone⟩ := hends.of_ok hrun
    refine ⟨fun _ m hm => hidle.inv.compilable m hm (hdone _ (List.mem_map_of_mem hm)), fun _ => ⟨s, rfl⟩⟩
  | error e s =>
    obtain ⟨target, htarget, hfails⟩ := hends.of_error hrun
    constructor
    · rintro ⟨_, h⟩
      cases h
    · exact fun h => absurd (h target htarget) hfails.not_compilable

/-- A plan whose tables are loaded compiles exactly if its tables are consistent and its references
have no cycle, and it fails with an error of its own everywhere else. -/
theorem compile_succeeds_iff (hw : ∀ m ∈ p.mappings, m.WellFormed) (hloaded : p.Loaded)
    (hhashable : p.Hashable) :
    ((∃ s, p.compile = .ok () s) ↔
      p.Acyclic ∧ ∀ m ∈ p.mappings, ∃ d, m.data = some d ∧ p.Consistent m d) ∧
    ∀ e s, p.compile = .error e s → e.IsOwn := by
  refine ⟨?_, ?_⟩
  · rw [exists_compile_iff hw, forall_compilable_iff]
    refine and_congr_right fun _ => forall₂_congr fun m hm => exists_congr fun d => ?_
    exact and_congr_right fun hdata => fits_iff_consistent hm hdata hloaded hhashable
  · intro e s h
    obtain ⟨target, -, hfails⟩ := (ends_compileAll hw (Idle.start p)).of_error h
    have hjustified := hfails.justified
    cases e with
    | unusableKey fault => exact hjustified hhashable
    | missingCell column => exact hjustified hloaded
    | _ => trivial

theorem compile_succeeds_iff_garage : (∀ m ∈ garage.mappings, m.WellFormed) ∧ garage.Loaded ∧
    garage.Hashable ∧ garage.Acyclic ∧
    ∀ m ∈ garage.mappings, ∃ d, m.data = some d ∧ garage.Consistent m d :=
  have hw : ∀ m ∈ garage.mappings, m.WellFormed := by decide
  have hloaded : garage.Loaded := by decide
  have hhashable : garage.Hashable := by decide
  ⟨hw, hloaded, hhashable,
    (compile_succeeds_iff hw hloaded hhashable).1.mp (compiles_iff.mp garage_compiles)⟩

def fares : Plan where
  mappings := [
    { table := "fare"
      typeName := "Fare"
      key := "id"
      label := "name"
      columns := [⟨"fare", "id", "Id", none, none⟩]
      attributes := []
      data := some ⟨"fare", [("id", ⟨"int", false⟩)], [⟨.int 5, .text "night", [("id", .int 5)]⟩]⟩ },
    { table := "number"
      typeName := "int"
      key := "id"
      label := "name"
      columns := []
      attributes := []
      data := some ⟨"number", [("id", ⟨"int", false⟩)], [⟨.int 1, .text "one", []⟩]⟩ }]
  distinct := by decide

/-- Two rows that have one not-a-number as their key. -/
def gauges : Plan where
  mappings := [
    { table := "gauge"
      typeName := "Gauge"
      key := "level"
      label := "name"
      columns := []
      attributes := []
      data := some ⟨"gauge", [("level", ⟨"object", false⟩)],
        [⟨.float .nan 0, .text "low", []⟩, ⟨.float .nan 0, .text "high", []⟩]⟩ }]
  distinct := by decide

/-- Cells of a column read by a cast need not be keys, though the column returns a mapped type. And
rows under one not-a-number are under the same key. -/
theorem compile_succeeds_fares : ((∀ m ∈ fares.mappings, m.WellFormed) ∧ fares.Loaded ∧
    fares.Hashable ∧ (∃ s, fares.compile = .ok () s) ∧
    ¬ ∀ m ∈ fares.mappings, ∀ d, m.data = some d → ∀ c ∈ m.columns,
      fares.maps (d.returnName c) = true → ∀ row ∈ d.rows, ∀ raw,
        row.cells.lookup c.column = some raw → raw.isNull = false →
          ∃ target ∈ fares.rowsOf (d.returnName c), target.key.sameKey raw = true) ∧
    (∀ m ∈ gauges.mappings, m.WellFormed) ∧ gauges.Loaded ∧ gauges.Hashable ∧
      ¬ ∃ s, gauges.compile = .ok () s := by
  refine ⟨⟨by decide, by decide, by decide, compiles_iff.mp (by decide +kernel), ?_⟩,
    by decide, by decide, by decide, ?_⟩
  · intro h
    have hcell := h _ List.mem_cons_self _ rfl _ List.mem_cons_self (by decide) _ List.mem_cons_self
      (.int 5) rfl rfl
    revert hcell
    decide +kernel
  · rw [← compiles_iff]
    decide +kernel

end Plan

end LookupEnums
