import LookupEnums.Loading
import LookupEnums.Proofs.Run.Ending
import LookupEnums.Proofs.TypeEnv.Arrival
import Mathlib.Data.List.Forall2

/-! # What loading keeps of a row

The rows of a table are those of the result in their order. Each keeps the key, the label and the
mapped cells of its own row as they are. A store answers with the columns it was asked for, and of
these none is missing, whichever of them are asked for more than once.
-/
namespace LookupEnums.Loading
variable {m : TableMapping} {r : ResultSet} {d : TableData} {cells : List (String × Value)} {row : Row}

section steps
variable {α β ε : Type}

theorem bind_eq_ok {x : Except ε α} {f : α → Except ε β} {b : β} :
    x >>= f = .ok b ↔ ∃ a, x = .ok a ∧ f a = .ok b := by
  cases x with
  | error e => simp [bind, Except.bind]
  | ok a => simp [bind, Except.bind]

/-- Each result comes from the item at its place. -/
theorem mapM_eq_ok {f : α → Except ε β} {items : List α} {results : List β} :
    items.mapM f = .ok results ↔ List.Forall₂ (fun a b => f a = .ok b) items results := by
  induction items generalizing results with
  | nil =>
    rw [List.forall₂_nil_left_iff]
    exact ⟨fun h => (Except.ok.inj h).symm, fun h => h ▸ rfl⟩
  | cons a rest ih =>
    rw [List.mapM_cons, bind_eq_ok, List.forall₂_cons_left_iff]
    constructor
    · rintro ⟨b, hone, h⟩
      obtain ⟨others, hmore, hall⟩ := bind_eq_ok.mp h
      exact ⟨b, others, hone, ih.mp hmore, (Except.ok.inj hall).symm⟩
    · rintro ⟨b, others, hone, hmore, rfl⟩
      exact ⟨b, hone, bind_eq_ok.mpr ⟨others, ih.mpr hmore, rfl⟩⟩

/-- A function that has a result for each item has one for all of them. -/
theorem exists_mapM_eq_ok {f : α → Except ε β} {items : List α} (h : ∀ a ∈ items, ∃ b, f a = .ok b) :
    ∃ results, items.mapM f = .ok results := by
  induction items with
  | nil => exact ⟨[], rfl⟩
  | cons a rest ih =>
    obtain ⟨b, hone⟩ := h a List.mem_cons_self
    obtain ⟨others, hmore⟩ := ih fun c hc => h c (List.mem_cons_of_mem _ hc)
    refine ⟨b :: others, mapM_eq_ok.mpr ?_⟩
    exact List.Forall₂.cons hone (mapM_eq_ok.mp hmore)

theorem map_eq_map_of_forall₂ {γ : Type} {f : α → γ} {g : β → γ} {items : List α} {results : List β}
    (h : List.Forall₂ (fun a b => f a = g b) items results) : items.map f = results.map g := by
  induction h with
  | nil => rfl
  | cons hone _ ih => rw [List.map_cons, List.map_cons, hone, ih]

theorem exists_of_forall₂ {R : α → β → Prop} {items : List α} {results : List β} {b : β}
    (h : List.Forall₂ R items results) (hb : b ∈ results) : ∃ a ∈ items, R a b := by
  induction h with
  | nil => cases hb
  | @cons a other items results hone _ ih =>
    rcases List.mem_cons.mp hb with rfl | hmore
    · exact ⟨a, List.mem_cons_self, hone⟩
    · obtain ⟨a', ha', hrelated⟩ := ih hmore
      exact ⟨a', List.mem_cons_of_mem _ ha', hrelated⟩

end steps

theorem cell_eq_ok {column : String} {v : Value} :
    cell cells column = .ok v ↔ cells.lookup column = some v := by
  unfold cell
  cases cells.lookup column with
  | none => simp
  | some w => simp

theorem mappedCell_eq_ok {c : ColumnMapping} {entry : String × Value} :
    mappedCell cells c = .ok entry ↔ cells.lookup c.column = some entry.2 ∧ c.column = entry.1 := by
  obtain ⟨column, v⟩ := entry
  rw [← cell_eq_ok]
  unfold mappedCell
  cases cell cells c.column with
  | error e => simp [Except.map]
  | ok w => simp [Except.map, and_comm]

/-- What a row of a table has of the cells it was read from. -/
structure Keeps (m : TableMapping) (cells : List (String × Value)) (row : Row) : Prop where
  key : cells.lookup m.key = some row.key
  label : cells.lookup m.label = some row.label
  mapped : ∀ c ∈ m.columns, (cells.lookup c.column).isSome ∧
    row.cells.lookup c.column = cells.lookup c.column

theorem lookup_mapped {columns : List ColumnMapping} {mapped : List (String × Value)}
    (h : List.Forall₂ (fun c entry => mappedCell cells c = .ok entry) columns mapped) :
    ∀ c ∈ columns, (cells.lookup c.column).isSome ∧ mapped.lookup c.column = cells.lookup c.column := by
  induction h with
  | nil => simp
  | @cons c entry columns mapped hone _ ih =>
    obtain ⟨hlookup, hcolumn⟩ := mappedCell_eq_ok.mp hone
    intro b hb
    rw [List.lookup_cons, ← hcolumn]
    -- the cell of `c` serves whatever other column has that name
    by_cases hsame : b.column = c.column
    · simp [hsame, hlookup]
    · have hlater : b ∈ columns := by
        refine (List.mem_cons.mp hb).resolve_left fun h => hsame ?_
        rw [h]
      rw [beq_false_of_ne hsame]
      exact ih b hlater

theorem keeps_of_rowOf (h : rowOf m cells = .ok row) : Keeps m cells row := by
  unfold rowOf at h
  obtain ⟨key, hkey, h⟩ := bind_eq_ok.mp h
  obtain ⟨label, hlabel, h⟩ := bind_eq_ok.mp h
  obtain ⟨mapped, hmapped, h⟩ := bind_eq_ok.mp h
  obtain rfl := Except.ok.inj h
  exact ⟨cell_eq_ok.mp hkey, cell_eq_ok.mp hlabel, lookup_mapped (mapM_eq_ok.mp hmapped)⟩

theorem keeps_of_dataOf (h : dataOf m r = .ok d) :
    d.columns = r.columns ∧ List.Forall₂ (Keeps m) r.rows d.rows := by
  unfold dataOf at h
  obtain ⟨rows, hrows, h⟩ := bind_eq_ok.mp h
  obtain rfl := Except.ok.inj h
  exact ⟨rfl, (mapM_eq_ok.mp hrows).imp fun _ _ hrow => keeps_of_rowOf hrow⟩

theorem exists_keeps (h : dataOf m r = .ok d) (hrow : row ∈ d.rows) :
    ∃ cells ∈ r.rows, Keeps m cells row :=
  exists_of_forall₂ (keeps_of_dataOf h).2 hrow

/-- A table labelled by its key has no other labels. -/
theorem label_eq_key (h : dataOf m r = .ok d) (hsame : m.label = m.key) :
    ∀ row ∈ d.rows, row.label = row.key := by
  intro row hrow
  obtain ⟨cells, -, hkeeps⟩ := exists_keeps h hrow
  have hlabel := hkeeps.label
  rw [hsame, hkeeps.key] at hlabel
  exact (Option.some.inj hlabel).symm

theorem map_cells_of_rowOf (h : rowOf m cells = .ok row) :
    row.cells.map (·.1) = m.columns.map (·.column) := by
  unfold rowOf at h
  obtain ⟨key, -, h⟩ := bind_eq_ok.mp h
  obtain ⟨label, -, h⟩ := bind_eq_ok.mp h
  obtain ⟨mapped, hmapped, h⟩ := bind_eq_ok.mp h
  obtain rfl := Except.ok.inj h
  exact (map_eq_map_of_forall₂ ((mapM_eq_ok.mp hmapped).imp fun _ _ hone =>
    (mappedCell_eq_ok.mp hone).2)).symm

theorem map_cells_of_dataOf (h : dataOf m r = .ok d) :
    ∀ row ∈ d.rows, row.cells.map (·.1) = m.columns.map (·.column) := by
  unfold dataOf at h
  obtain ⟨rows, hrows, h⟩ := bind_eq_ok.mp h
  obtain rfl := Except.ok.inj h
  intro row hrow
  obtain ⟨cells, -, hcells⟩ := exists_of_forall₂ (mapM_eq_ok.mp hrows) hrow
  exact map_cells_of_rowOf hcells

end LookupEnums.Loading

namespace LookupEnums

structure ResultSet.IsFor (r : ResultSet) (names : List String) : Prop where
  columns : ∀ n, n ∈ r.columns.map (·.1) ↔ n ∈ names
  rows : ∀ cells ∈ r.rows, ∀ n, n ∈ cells.map (·.1) ↔ n ∈ names

theorem isSome_lookup_iff {α : Type} {entries : List (String × α)} {name : String} :
    (entries.lookup name).isSome ↔ name ∈ entries.map (·.1) := by
  rw [List.lookup_isSome_iff, List.mem_map]
  exact exists_congr fun entry => and_congr_right fun _ => beq_iff_eq.trans eq_comm

namespace TableMapping

theorem nodup_queryColumns (m : TableMapping) : m.queryColumns.Nodup :=
  nodup_eraseDups _

/-- Leaving out what is there already drops no name. -/
theorem mem_queryColumns {m : TableMapping} {name : String} :
    name ∈ m.queryColumns ↔ name = m.key ∨ name = m.label ∨ ∃ c ∈ m.columns, c.column = name := by
  rw [queryColumns, List.mem_eraseDups, List.mem_cons, List.mem_cons, List.mem_map]

end TableMapping

namespace Loading
variable {m : TableMapping} {r : ResultSet} {d : TableData} {cells : List (String × Value)}

theorem exists_cell {name : String} (h : name ∈ cells.map (·.1)) : ∃ v, cell cells name = .ok v := by
  obtain ⟨v, hv⟩ := Option.isSome_iff_exists.mp (isSome_lookup_iff.mpr h)
  exact ⟨v, cell_eq_ok.mpr hv⟩

/-- The key, the label and the mapped cells of a row are all among those that are asked for. -/
theorem exists_rowOf (h : ∀ n ∈ m.queryColumns, n ∈ cells.map (·.1)) :
    ∃ row, rowOf m cells = .ok row := by
  obtain ⟨key, hkey⟩ := exists_cell (h m.key (TableMapping.mem_queryColumns.mpr (.inl rfl)))
  obtain ⟨label, hlabel⟩ := exists_cell
    (h m.label (TableMapping.mem_queryColumns.mpr (.inr (.inl rfl))))
  obtain ⟨mapped, hmapped⟩ : ∃ mapped, m.columns.mapM (mappedCell cells) = .ok mapped := by
    refine exists_mapM_eq_ok fun c hc => ?_
    have hcolumn := TableMapping.mem_queryColumns.mpr (.inr (.inr ⟨c, hc, rfl⟩))
    obtain ⟨v, hv⟩ := exists_cell (h c.column hcolumn)
    exact ⟨(c.column, v), mappedCell_eq_ok.mpr ⟨cell_eq_ok.mp hv, rfl⟩⟩
  refine ⟨⟨key, label, mapped⟩, ?_⟩
  rw [rowOf, hkey, hlabel, hmapped]
  rfl

theorem exists_dataOf (h : r.IsFor m.queryColumns) : ∃ d, dataOf m r = .ok d := by
  obtain ⟨rows, hrows⟩ : ∃ rows, r.rows.mapM (rowOf m) = .ok rows :=
    exists_mapM_eq_ok fun cells hcells => exists_rowOf fun n => (h.rows cells hcells n).mpr
  exact ⟨⟨m.table, r.columns, rows⟩, bind_eq_ok.mpr ⟨rows, hrows, rfl⟩⟩

theorem ending_load {a : Adapter} {w : World} (hfetch : ending (a.fetch m.table m.queryColumns) w = .ok r) :
    ending (load a m) w = ((dataOf m r).mapError .compile).map m.withData := by
  unfold load
  rw [(bind_ok hfetch).1, Run.ending_lift_bind]
  cases dataOf m r <;> rfl

end Loading

namespace Database
open Loading

theorem map_name_of_requested {known found : List KnownColumn} {asked : String}
    {columns : List String} (h : requested known asked columns = .ok found) :
    found.map (·.name) = columns.eraseDups := by
  have hnames : List.Forall₂ (fun name (c : KnownColumn) => name = c.name) columns.eraseDups found := by
    refine (mapM_eq_ok.mp h).imp fun name c hfound => ?_
    split at hfound
    next found hfind =>
      cases hfound
      have hname := List.find?_some hfind
      exact (of_decide_eq_true hname).symm
    next => cases hfound
  have hsame := map_eq_map_of_forall₂ (f := id) hnames
  rw [List.map_id] at hsame
  exact hsame.symm

theorem fst_of_read {c : KnownColumn} {d : Datum} {entry : String × Value}
    (h : c.read d = .ok entry) : entry.1 = c.name := by
  unfold KnownColumn.read at h
  cases hvalue : c.type.read d with
  | error e =>
    rw [hvalue] at h
    cases h
  | ok v =>
    rw [hvalue] at h
    cases h
    rfl

theorem map_fst_of_readRow {columns : List KnownColumn} {data : List Datum}
    {cells : List (String × Value)} (hlength : columns.length = data.length)
    (h : readRow columns data = .ok cells) : cells.map (·.1) = columns.map (·.name) := by
  unfold readRow at h
  split at h
  next => cases h
  next =>
    have hnames := map_eq_map_of_forall₂ (f := fun x : KnownColumn × Datum => x.1.name)
      ((mapM_eq_ok.mp h).imp fun x entry hread => (fst_of_read hread).symm)
    calc cells.map (·.1) = (columns.zip data).map (fun x => x.1.name) := hnames.symm
      _ = ((columns.zip data).map (·.1)).map (·.name) := List.map_map.symm
      _ = columns.map (·.name) := by rw [List.map_fst_zip hlength.le]

/-- An answer has the columns that were found for those asked for, each with its storage type, and its
rows are read with the same columns. -/
theorem of_select_ok {db : Database} {asked : String} {columns : List String} {r : ResultSet}
    (h : db.select asked columns = .ok r) : ∃ known found, requested known asked columns = .ok found ∧
      r.columns = found.map (fun c => (c.name, c.storageType)) ∧
      ∀ cells ∈ r.rows, ∃ data, found.length = data.length ∧ readRow found data = .ok cells := by
  unfold select at h
  split at h
  next => cases h
  next => cases h
  next known _ =>
    obtain ⟨found, hfound, h⟩ := bind_eq_ok.mp h
    dsimp only at h
    split at h
    next => cases h
    next result _ =>
      obtain ⟨rows, hrows, h⟩ := bind_eq_ok.mp h
      split at h
      next =>
        cases h
        refine ⟨known, found, hfound, rfl, fun cells hcells => ?_⟩
        obtain ⟨data, -, hread⟩ := exists_of_forall₂ (mapM_eq_ok.mp hrows) hcells
        exact ⟨_, by simp, hread⟩
      next => cases h

theorem isFor_select {db : Database} {asked : String} {columns : List String} {r : ResultSet}
    (h : db.select asked columns = .ok r) : r.IsFor columns := by
  obtain ⟨known, found, hfound, hcolumns, hrows⟩ := of_select_ok h
  have hnames := map_name_of_requested hfound
  refine ⟨fun n => ?_, fun cells hcells n => ?_⟩
  · have hsame : r.columns.map (·.1) = columns.eraseDups := by
      rw [hcolumns]
      exact List.map_map.trans hnames
    rw [hsame, List.mem_eraseDups]
  · obtain ⟨data, hlength, hread⟩ := hrows cells hcells
    rw [map_fst_of_readRow hlength hread, hnames, List.mem_eraseDups]

/-- The storage types of an answer are those of column types. -/
theorem storageType_of_select {db : Database} {asked : String} {columns : List String} {r : ResultSet}
    (h : db.select asked columns = .ok r) : ∀ entry ∈ r.columns, ∃ (t : ColumnType) (nullable : Bool),
      entry.2 = t.storageType nullable := by
  obtain ⟨-, found, -, hcolumns, -⟩ := of_select_ok h
  intro entry hentry
  rw [hcolumns] at hentry
  obtain ⟨c, -, rfl⟩ := List.mem_map.mp hentry
  exact ⟨c.type, c.nullable, rfl⟩

end Database

namespace Adapter
variable {a : Adapter} {table : String} {columns : List String} {w : World} {r : ResultSet}

theorem of_fetch_ok (h : ending (a.fetch table columns) w = .ok r) :
    ∃ db : Database, db.select table columns = .ok r := by
  unfold fetch at h
  obtain ⟨store, -, h⟩ := of_bind_ok h
  obtain ⟨tree, -, h⟩ := of_bind_ok h
  dsimp only at h
  split at h
  next found hselect =>
    cases h
    cases hdatabase : (store.database? tree).bind (Store.schema? · a.config.schema) with
    | none =>
      rw [hdatabase] at hselect
      cases hselect
    | some db =>
      rw [hdatabase] at hselect
      exact ⟨db, hselect⟩
  next => cases h
  next => cases h
  next => cases h

/-- A table is read with the columns that were asked for and no others, the same in each row. -/
theorem isFor_fetch (h : ending (a.fetch table columns) w = .ok r) : r.IsFor columns := by
  obtain ⟨db, hselect⟩ := of_fetch_ok h
  exact Database.isFor_select hselect

end Adapter

namespace Loading

/-- A table is loaded with what was read of it. -/
theorem of_load {a : Adapter} {m loaded : TableMapping} {w : World}
    (h : ending (load a m) w = .ok loaded) :
    ∃ r d, ending (a.fetch m.table m.queryColumns) w = .ok r ∧ dataOf m r = .ok d ∧
      loaded = m.withData d := by
  obtain ⟨r, hfetch, -⟩ := of_bind_ok h
  rw [ending_load hfetch] at h
  cases hd : dataOf m r with
  | error e =>
    rw [hd] at h
    cases h
  | ok d =>
    rw [hd] at h
    cases h
    exact ⟨r, d, hfetch, hd, rfl⟩

theorem of_loadAll {c : AdapterConfig} {ms loaded : List TableMapping} {w : World}
    (h : ending (loadAll c ms) w = .ok loaded) {m : TableMapping} (hm : m ∈ loaded) :
    ∃ asked r d, (∃ a v, ending (Adapter.fetch a asked.table asked.queryColumns) v = .ok r) ∧
      dataOf asked r = .ok d ∧ m = asked.withData d := by
  obtain ⟨a, -, h⟩ := of_bind_ok h
  obtain ⟨asked, -, v, hload⟩ := of_mapM_ok h m hm
  obtain ⟨r, d, hfetch, hd, hwith⟩ := of_load hload
  exact ⟨asked, r, d, ⟨a, v, hfetch⟩, hd, hwith⟩

end Loading

end LookupEnums
