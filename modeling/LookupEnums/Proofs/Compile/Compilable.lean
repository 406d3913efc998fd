import LookupEnums.Proofs.Compile.Direct
import LookupEnums.Proofs.Value.Key

/-! # Tables that compile

What has to hold of a table and of every table it refers to, however far, for its compilation to
succeed. It is a property of the plan alone: neither the order of compilation nor what failed
before it enters. The references of a compilable table end, so none of them closes a cycle.
-/
namespace LookupEnums

structure RowsDistinct (rows : List Row) : Prop where
  named : ∀ row ∈ rows, row.memberName ≠ ""
  names : (rows.map Row.memberName).Nodup
  usable : ∀ row ∈ rows, row.key.usableAsKey = true
  keys : rows.Pairwise fun a b => a.key.sameKey b.key = false

namespace RowsDistinct

theorem nil : RowsDistinct [] := ⟨by simp, by simp, by simp, by simp⟩

theorem append_singleton {rows : List Row} {row : Row} :
    RowsDistinct (rows ++ [row]) ↔ RowsDistinct rows ∧ row.memberName ≠ "" ∧
      row.memberName ∉ rows.map Row.memberName ∧ row.key.usableAsKey = true ∧
      ∀ r ∈ rows, r.key.sameKey row.key = false := by
  constructor
  · rintro ⟨hnamed, hnames, husable, hkeys⟩
    rw [List.map_append, List.nodup_append] at hnames
    obtain ⟨hkeys, -, hkey⟩ := List.pairwise_append.mp hkeys
    refine ⟨⟨fun r hr => hnamed r (List.mem_append_left _ hr), hnames.1,
      fun r hr => husable r (List.mem_append_left _ hr), hkeys⟩, hnamed row (by simp), ?_,
      husable row (by simp), fun r hr => hkey r hr row (by simp)⟩
    exact fun hmem => hnames.2.2 _ hmem _ (by simp) rfl
  · rintro ⟨⟨hnamed, hnames, husable, hkeys⟩, hname, hnew, huse, hkey⟩
    refine ⟨?_, ?_, ?_, ?_⟩
    · simpa [or_imp, forall_and] using ⟨hnamed, hname⟩
    · rw [List.map_append, List.nodup_append]
      refine ⟨hnames, by simp, ?_⟩
      intro a ha b hb hab
      rw [List.map_singleton, List.mem_singleton] at hb
      exact hnew (hb ▸ hab ▸ ha)
    · simpa [or_imp, forall_and] using ⟨husable, huse⟩
    · exact List.pairwise_append.mpr ⟨hkeys, by simp, by simpa using hkey⟩

theorem of_prefix {rows all : List Row} (h : rows <+: all) (hall : RowsDistinct all) :
    RowsDistinct rows where
  named row hr := hall.named row (h.subset hr)
  names := hall.names.sublist (h.sublist.map _)
  usable row hr := hall.usable row (h.subset hr)
  keys := hall.keys.sublist h.sublist

/-- A key is that of one row at most. -/
theorem filter_sameKey {rows : List Row} (h : RowsDistinct rows) {row : Row} {key : Value}
    (hmem : row ∈ rows) (hsame : row.key.sameKey key = true) :
    rows.filter (·.key.sameKey key) = [row] := by
  have hkeys := h.keys
  simp only [← Bool.not_eq_true] at hkeys
  refine Keyed.filter_eq_singleton hkeys (fun a _ b _ ha hb => ?_) hmem hsame
  rw [Value.sameKey_comm] at hb
  exact Value.sameKey_trans ha hb

end RowsDistinct

namespace Plan

/-- The cell is there, and where it refers to a row of a mapped table there is such a row. -/
def CellFits (p : Plan) (name : String) (row : Row) (column : String) : Prop :=
  ∃ raw, row.cells.lookup column = some raw ∧
    (p.maps name = true → raw.isNull = false →
      raw.usableAsKey = true ∧ p.rowsUnder name raw ≠ [])

structure Fits (p : Plan) (m : TableMapping) (d : TableData) : Prop where
  key : (d.storageType? m.key).isSome
  columns : ∀ c ∈ m.columns, (d.storageType? c.column).isSome
  rows : RowsDistinct d.rows
  cells : ∀ row ∈ d.rows, ∀ c ∈ m.columns, m.coerces d c = false →
    p.CellFits (d.returnName c) row c.column

/-- The table is loaded and fits, and so does every table its columns return, and so on. -/
inductive Compilable (p : Plan) : TableMapping → Prop
  | intro {m : TableMapping} {d : TableData} (data : m.data = some d) (fits : p.Fits m d)
      (targets : ∀ c ∈ m.columns, ∀ target, p.mapping? (d.returnName c) = some target →
        Compilable p target) : Compilable p m

variable {p : Plan} {m : TableMapping}

theorem Compilable.fits {d : TableData} (h : p.Compilable m) (hd : m.data = some d) :
    p.Fits m d := by
  obtain ⟨data, fits, -⟩ := h
  rw [data] at hd
  exact Option.some.inj hd ▸ fits

theorem Compilable.of_refers (h : p.Compilable m) (hm : m ∈ p.mappings) {u : String}
    (hu : p.Refers m.typeName u) : ∃ target, p.mapping? u = some target ∧ p.Compilable target := by
  obtain ⟨hdata, hfits, htargets⟩ := h
  obtain ⟨target, htarget⟩ := Option.isSome_iff_exists.mp hu.maps_right
  obtain ⟨c, hc, rfl⟩ := hu.exists_column hm hdata hfits.columns
  exact ⟨target, htarget, htargets c hc target htarget⟩

/-- No reference closes a cycle, neither at a compilable table nor after it. -/
theorem Compilable.not_cyclic (h : p.Compilable m) (hm : m ∈ p.mappings) {u : String}
    (hu : Relation.ReflTransGen p.Refers m.typeName u) : ¬ Relation.TransGen p.Refers u u := by
  induction h generalizing u with
  | @intro m d hdata hfits htargets ih =>
    have hnext : ∀ v, p.Refers m.typeName v → ∀ w, Relation.ReflTransGen p.Refers v w →
        ¬ Relation.TransGen p.Refers w w := by
      intro v hv w hw
      obtain ⟨target, htarget⟩ := Option.isSome_iff_exists.mp hv.maps_right
      obtain ⟨hmem, rfl⟩ := mapping?_eq_some.mp htarget
      obtain ⟨c, hc, hreturn⟩ := hv.exists_column hm hdata hfits.columns
      exact ih c hc target (hreturn ▸ htarget) hmem hw
    -- a cycle at this very table passes the next one
    intro hcycle
    rcases Relation.ReflTransGen.cases_head hu with rfl | ⟨v, hv, hvu⟩
    · obtain ⟨v, hv, hback⟩ := Relation.TransGen.head'_iff.mp hcycle
      exact hnext v hv _ hback hcycle
    · exact hnext v hv u hvu hcycle

theorem not_compilable_of_refers (hm : m ∈ p.mappings) {target : TableMapping}
    (htarget : p.mapping? target.typeName = some target)
    (hrefers : p.Refers m.typeName target.typeName) (h : ¬ p.Compilable target) :
    ¬ p.Compilable m := by
  intro hc
  obtain ⟨target', htarget', hc'⟩ := hc.of_refers hm hrefers
  rw [htarget] at htarget'
  exact h (Option.some.inj htarget' ▸ hc')

end Plan

end LookupEnums
