import LookupEnums.Proofs.Compile.Success

/-! # Plans with other templates

The template of a column says what its cases look like and whether the column is read by a cast. The
types, the rows and the references of a plan do not depend on templates, so with other templates a plan
still compiles if the cells fit that a cast kept from being looked up.
-/
namespace LookupEnums

namespace ColumnMapping

def retemplate (f : ColumnMapping → Option String) (c : ColumnMapping) : ColumnMapping :=
  { c with template := f c }

end ColumnMapping

namespace TableMapping
variable {m : TableMapping} {d : TableData} {f : ColumnMapping → Option String}

def retemplate (f : ColumnMapping → Option String) (m : TableMapping) : TableMapping :=
  { m with columns := m.columns.map (·.retemplate f) }

theorem mem_columns_retemplate {b : ColumnMapping} :
    b ∈ (m.retemplate f).columns ↔ ∃ c ∈ m.columns, c.retemplate f = b :=
  List.mem_map

theorem WellFormed.retemplate (h : m.WellFormed) (f : ColumnMapping → Option String) :
    (m.retemplate f).WellFormed where
  columns := by
    have hsame : (m.retemplate f).columns.map (·.column) = m.columns.map (·.column) :=
      List.map_map
    rw [hsame]
    exact h.columns
  accessors := by
    have hsame : (m.retemplate f).columns.map (·.accessor) = m.columns.map (·.accessor) :=
      List.map_map
    rw [hsame]
    exact h.accessors

theorem directEnum?_retemplate (f : ColumnMapping → Option String) :
    (m.retemplate f).directEnum? = m.directEnum? := by
  have hnames : (m.retemplate f).columns.map (·.accessor) = m.columns.map (·.accessor) :=
    List.map_map
  unfold directEnum?
  rw [hnames]
  rfl

/-- Read by a cast is the key of a table where it is integral and stands by itself. -/
theorem coerces_iff {c : ColumnMapping} : m.coerces d c = true ↔
    c.column = m.key ∧ c.template = none ∧ c.returns = none ∧
      ∃ keyType, d.storageType? m.key = some keyType ∧ keyType.isIntegral = true := by
  unfold coerces isCoercion
  cases d.storageType? m.key with
  | none => simp
  | some keyType => simp [and_assoc]

end TableMapping

namespace Plan
variable {p : Plan} {m : TableMapping} {d : TableData} {f : String → ColumnMapping → Option String}

/-- The plan with the templates that `f` gives to the columns of each type. -/
def retemplate (f : String → ColumnMapping → Option String) (p : Plan) : Plan where
  mappings := p.mappings.map fun m => m.retemplate (f m.typeName)
  distinct := by
    have hsame : (p.mappings.map fun m => m.retemplate (f m.typeName)).map (·.typeName) =
        p.mappings.map (·.typeName) := List.map_map
    rw [hsame]
    exact p.distinct

theorem mem_mappings_retemplate {m' : TableMapping} :
    m' ∈ (p.retemplate f).mappings ↔ ∃ m ∈ p.mappings, m.retemplate (f m.typeName) = m' :=
  List.mem_map

theorem wellFormed_retemplate (hw : ∀ m ∈ p.mappings, m.WellFormed) :
    ∀ m' ∈ (p.retemplate f).mappings, m'.WellFormed := by
  intro m' hm'
  obtain ⟨m, hm, rfl⟩ := mem_mappings_retemplate.mp hm'
  exact (hw m hm).retemplate _

theorem mapping?_retemplate (t : String) :
    (p.retemplate f).mapping? t = (p.mapping? t).map fun m => m.retemplate (f m.typeName) :=
  List.find?_map

@[simp] theorem maps_retemplate (t : String) : (p.retemplate f).maps t = p.maps t := by
  unfold maps
  rw [mapping?_retemplate, Option.isSome_map]

@[simp] theorem rowsUnder_retemplate (name : String) (key : Value) :
    (p.retemplate f).rowsUnder name key = p.rowsUnder name key := by
  unfold rowsUnder rowsOf
  rw [mapping?_retemplate]
  cases p.mapping? name <;> rfl

theorem refers_retemplate : (p.retemplate f).Refers = p.Refers := by
  funext t u
  refine propext ⟨?_, ?_⟩
  · rintro ⟨m', hm', hmaps, b, hb, hreturn⟩
    rw [mapping?_retemplate] at hm'
    obtain ⟨m, hm, rfl⟩ := Option.map_eq_some_iff.mp hm'
    obtain ⟨c, hc, rfl⟩ := TableMapping.mem_columns_retemplate.mp hb
    rw [maps_retemplate] at hmaps
    exact ⟨m, hm, hmaps, c, hc, hreturn⟩
  · rintro ⟨m, hm, hmaps, c, hc, hreturn⟩
    have hm' : (p.retemplate f).mapping? t = some (m.retemplate (f m.typeName)) := by
      rw [mapping?_retemplate, hm, Option.map_some]
    rw [← maps_retemplate (f := f)] at hmaps
    exact ⟨_, hm', hmaps, _, TableMapping.mem_columns_retemplate.mpr ⟨c, hc, rfl⟩, hreturn⟩

theorem cellFits_retemplate {name column : String} {row : Row} :
    (p.retemplate f).CellFits name row column ↔ p.CellFits name row column := by
  simp only [CellFits, maps_retemplate, rowsUnder_retemplate]

/-- Cells that a cast kept from being looked up fit as well. -/
theorem Fits.retemplate (h : p.Fits m d)
    (hcells : ∀ c ∈ m.columns, m.coerces d c = true → (f m.typeName c).isSome → ∀ row ∈ d.rows,
      p.CellFits (d.returnName c) row c.column) :
    (p.retemplate f).Fits (m.retemplate (f m.typeName)) d where
  key := h.key
  columns b hb := by
    obtain ⟨c, hc, rfl⟩ := TableMapping.mem_columns_retemplate.mp hb
    exact h.columns c hc
  rows := h.rows
  cells row hrow b hb hcoerces := by
    obtain ⟨c, hc, rfl⟩ := TableMapping.mem_columns_retemplate.mp hb
    refine cellFits_retemplate.mpr ?_
    cases hcast : m.coerces d c with
    | false => exact h.cells row hrow c hc hcast
    | true =>
      refine hcells c hc hcast ?_ row hrow
      -- without a template the column would still be read by a cast
      by_contra hplain
      obtain ⟨hcolumn, -, hreturns, hkey⟩ := TableMapping.coerces_iff.mp hcast
      have hstill := TableMapping.coerces_iff (m := m.retemplate (f m.typeName))
        (c := c.retemplate (f m.typeName)) |>.mpr
          ⟨hcolumn, Option.not_isSome_iff_eq_none.mp hplain, hreturns, hkey⟩
      rw [hcoerces] at hstill
      cases hstill

theorem compiles_retemplate (hw : ∀ m ∈ p.mappings, m.WellFormed)
    (hcells : ∀ m ∈ p.mappings, ∀ d, m.data = some d → ∀ c ∈ m.columns, m.coerces d c = true →
      (f m.typeName c).isSome → ∀ row ∈ d.rows, p.CellFits (d.returnName c) row c.column)
    (h : ∃ s, p.compile = .ok () s) : ∃ s, (p.retemplate f).compile = .ok () s := by
  obtain ⟨hacyclic, hfits⟩ := forall_compilable_iff.mp ((exists_compile_iff hw).mp h)
  refine (exists_compile_iff (wellFormed_retemplate hw)).mpr (forall_compilable_iff.mpr ⟨?_, ?_⟩)
  · unfold Acyclic
    rw [refers_retemplate]
    exact hacyclic
  · intro m' hm'
    obtain ⟨m, hm, rfl⟩ := mem_mappings_retemplate.mp hm'
    obtain ⟨d, hdata, hfit⟩ := hfits m hm
    exact ⟨d, hdata, hfit.retemplate (hcells m hm d hdata)⟩

end Plan

end LookupEnums
