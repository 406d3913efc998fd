import LookupEnums.Proofs.Compile.Meaning
import LookupEnums.Proofs.Compile.Success
import LookupEnums.Proofs.TypeEnv.Arrival

/-! # Tables in another order

The order of the tables decides which of them are compiled on demand and in which order names
arrive. It decides nothing else: tables compile in one order if and only if they do in the other,
and what is generated for each type is the same.
-/
namespace LookupEnums
open Compile Source

namespace Plan
variable {p p' : Plan} {m : TableMapping}

theorem firstRepeat?_eq_none_iff {seen : List String} {ms : List TableMapping} :
    firstRepeat? seen ms = none ↔
      (ms.map (·.typeName)).Nodup ∧ ∀ m ∈ ms, m.typeName ∉ seen := by
  refine ⟨nodup_of_firstRepeat?_eq_none, ?_⟩
  induction ms generalizing seen with
  | nil => exact fun _ => rfl
  | cons m rest ih =>
    rintro ⟨hnodup, hseen⟩
    rw [List.map_cons, List.nodup_cons] at hnodup
    unfold firstRepeat?
    rw [if_neg (by simpa using hseen m List.mem_cons_self)]
    refine ih ⟨hnodup.2, fun x hx hmem => ?_⟩
    rcases List.mem_cons.mp hmem with hsame | hmem
    · exact hnodup.1 (List.mem_map.mpr ⟨x, hx, hsame⟩)
    · exact hseen x (List.mem_cons_of_mem _ hx) hmem

theorem ofMappings_eq_ok {ms : List TableMapping} :
    ofMappings ms = .ok p ↔ p.mappings = ms := by
  obtain ⟨mappings, distinct⟩ := p
  unfold ofMappings
  split
  next m hrepeat =>
    refine ⟨nofun, ?_⟩
    rintro rfl
    rw [firstRepeat?_eq_none_iff.mpr ⟨distinct, by simp⟩] at hrepeat
    cases hrepeat
  next => rw [Except.ok.injEq, Plan.mk.injEq, eq_comm]

theorem mapping?_perm (h : p.mappings.Perm p'.mappings) : p.mapping? = p'.mapping? :=
  funext fun name => Keyed.find?_perm p.distinct h name

theorem maps_congr (h : p.mapping? = p'.mapping?) : p.maps = p'.maps := by
  funext name
  rw [maps, h, ← maps]

theorem rowsUnder_congr (h : p.mapping? = p'.mapping?) : p.rowsUnder = p'.rowsUnder := by
  funext name key
  rw [rowsUnder, rowsOf, h, ← rowsOf, ← rowsUnder]

theorem directAccessor?_congr (h : p.mapping? = p'.mapping?) :
    p.directAccessor? = p'.directAccessor? := by
  have hexpression : p.directExpression? = p'.directExpression? := by
    funext m c name raw
    rw [directExpression?, maps_congr h, rowsUnder_congr h, ← directExpression?]
  have hcases : p.directCases = p'.directCases := by
    funext m d c
    unfold directCases casesOver directCase?
    rw [hexpression]
  have hstage : p.directStage = p'.directStage := by
    funext name
    rw [directStage, maps_congr h, ← directStage]
  funext m c
  rw [directAccessor?, hcases, hstage, ← directAccessor?]

theorem Compilable.congr (h : p.mapping? = p'.mapping?) (hm : p.Compilable m) : p'.Compilable m := by
  induction hm with
  | intro data fits _ ih =>
    refine Compilable.intro data ⟨fits.key, fits.columns, fits.rows, ?_⟩ ?_
    · intro row hrow c hc hcoerces
      obtain ⟨raw, hraw, hfits⟩ := fits.cells row hrow c hc hcoerces
      rw [maps_congr h, rowsUnder_congr h] at hfits
      exact ⟨raw, hraw, hfits⟩
    · intro c hc target htarget
      exact ih c hc target (h ▸ htarget)

theorem exists_compile_perm (hw : ∀ m ∈ p.mappings, m.WellFormed) (h : p.mappings.Perm p'.mappings)
    (hcompile : ∃ s, p.compile = .ok () s) : ∃ s, p'.compile = .ok () s := by
  rw [exists_compile_iff fun m hm => hw m (h.mem_iff.mpr hm)]
  intro m hm
  exact ((exists_compile_iff hw).mp hcompile m (h.mem_iff.mpr hm)).congr (mapping?_perm h)

theorem direct_perm (h : p.mappings.Perm p'.mappings) :
    p.direct.stages.Perm p'.direct.stages ∧ p.direct.enums.Perm p'.direct.enums ∧
      p.direct.accessors.Perm p'.direct.accessors := by
  have hmapping := mapping?_perm h
  have houtside : p.outsideNames.Perm p'.outsideNames := by
    unfold outsideNames
    rw [maps_congr hmapping]
    exact ((h.flatMap_right _).filter _).dedup
  refine ⟨?_, h.filterMap _, ?_⟩
  · exact ((h.map _).map _).append (houtside.map _)
  · unfold direct
    rw [directAccessor?_congr hmapping]
    exact h.flatMap_right _

theorem sameContent_perm (hw : ∀ m ∈ p.mappings, m.WellFormed) (h : p.mappings.Perm p'.mappings)
    {s s' : Session} (hs : p.compile = .ok () s) (hs' : p'.compile = .ok () s') :
    SameContent s.env s'.env := by
  have hw' : ∀ m ∈ p'.mappings, m.WellFormed := fun m hm => hw m (h.mem_iff.mpr hm)
  obtain ⟨hstages, henums, haccessors⟩ := perm_direct hw hs
  obtain ⟨hstages', henums', haccessors'⟩ := perm_direct hw' hs'
  obtain ⟨hdirectStages, hdirectEnums, hdirectAccessors⟩ := direct_perm h
  have hadmits := (finished_of_compile hw hs).1.admits
  exact {
    stages := (hstages.trans hdirectStages).trans hstages'.symm
    enums := (henums.trans hdirectEnums).trans henums'.symm
    accessors := (haccessors.trans hdirectAccessors).trans haccessors'.symm
    stageNames := hadmits.stages
    enumIds := hadmits.enums
    accessorIds := hadmits.accessors }

end Plan

def compileTables (ms : List TableMapping) : Except CompileError TypeEnv :=
  match Plan.ofMappings ms with
  | .error e => .error e
  | .ok p => match p.compile with
    | .error e _ => .error e
    | .ok _ s => .ok s.env

theorem compileTables_eq_ok {ms : List TableMapping} {env : TypeEnv} :
    compileTables ms = .ok env ↔
      ∃ p s, p.mappings = ms ∧ Plan.compile p = .ok () s ∧ s.env = env := by
  unfold compileTables
  constructor
  · intro h
    split at h
    · cases h
    next p hp =>
      split at h
      · cases h
      next s hs => exact ⟨p, s, Plan.ofMappings_eq_ok.mp hp, hs, Except.ok.inj h⟩
  · rintro ⟨p, s, hp, hs, rfl⟩
    rw [Plan.ofMappings_eq_ok.mpr hp]
    simp only [hs]

/-- Another order of the tables changes the order of types and namespaces and nothing else: not
whether the tables compile, nor what is summarized of a type, which types are external, or which
lines are written for a type and under which heading. -/
theorem compileTables_perm {ms ms' : List TableMapping} (hw : ∀ m ∈ ms, m.WellFormed)
    (h : ms.Perm ms') :
    ((∃ env, compileTables ms = .ok env) ↔ ∃ env, compileTables ms' = .ok env) ∧
    ∀ env env', compileTables ms = .ok env → compileTables ms' = .ok env' →
      env.summarize.types.Perm env'.summarize.types ∧
      env.summarize.externalTypes = env'.summarize.externalTypes ∧
      env.internalTypes.Perm env'.internalTypes ∧
      (∀ t depth, typeLines env depth t = typeLines env' depth t) ∧
      SameOutline (outline env) (outline env') ∧
      ∀ unit, render unit env = renderOutline unit (outline env) ∧
        render unit env' = renderOutline unit (outline env') := by
  -- whether tables compile is a condition on each of them; one direction is enough by symmetry
  have hsucceeds : ∀ {ms ms' : List TableMapping}, (∀ m ∈ ms, m.WellFormed) → ms.Perm ms' →
      (∃ env, compileTables ms = .ok env) → ∃ env, compileTables ms' = .ok env := by
    rintro ms ms' hw h ⟨env, henv⟩
    obtain ⟨p, s, rfl, hs, -⟩ := compileTables_eq_ok.mp henv
    let p' : Plan := ⟨ms', (h.map _).nodup_iff.mp p.distinct⟩
    have hcompile : ∃ s', p'.compile = .ok () s' := Plan.exists_compile_perm hw h ⟨s, hs⟩
    obtain ⟨s', hs'⟩ := hcompile
    exact ⟨s'.env, compileTables_eq_ok.mpr ⟨p', s', rfl, hs', rfl⟩⟩
  refine ⟨⟨hsucceeds hw h, hsucceeds (fun m hm => hw m (h.mem_iff.mpr hm)) h.symm⟩, ?_⟩
  intro env env' henv henv'
  obtain ⟨p, s, rfl, hs, rfl⟩ := compileTables_eq_ok.mp henv
  obtain ⟨p', s', rfl, hs', rfl⟩ := compileTables_eq_ok.mp henv'
  have hsame := Plan.sameContent_perm hw h hs hs'
  refine ⟨hsame.summarize_types, hsame.summarize_externalTypes, hsame.internalTypes_perm, ?_,
    hsame.outline_same, fun unit => ⟨render_eq_renderOutline unit _, render_eq_renderOutline unit _⟩⟩
  exact fun t depth => congrFun (hsame.typeLines_eq depth) t

/-- In its own order the table of colours is compiled within that of cars, in the other before it. -/
theorem compileTables_perm_garage : ∃ env env', compileTables Plan.garage.mappings = .ok env ∧
    compileTables Plan.garage.mappings.reverse = .ok env' ∧
    env.internalTypes.map (·.name) = ["Car", "Colour"] ∧
    env'.internalTypes.map (·.name) = ["Colour", "Car"] ∧
    SameOutline (outline env) (outline env') := by
  have hw : ∀ m ∈ Plan.garage.mappings, m.WellFormed := by decide
  have hperm : Plan.garage.mappings.Perm Plan.garage.mappings.reverse := (List.reverse_perm _).symm
  obtain ⟨s, hs⟩ := Plan.compiles_iff.mp Plan.garage_compiles
  have henv := compileTables_eq_ok.mpr ⟨Plan.garage, s, rfl, hs, rfl⟩
  obtain ⟨hboth, hsame⟩ := compileTables_perm hw hperm
  obtain ⟨env', henv'⟩ := hboth.mp ⟨s.env, henv⟩
  have hnames : (compileTables Plan.garage.mappings).toOption.map (·.internalTypes.map (·.name)) =
      some ["Car", "Colour"] := by decide +kernel
  have hnames' : (compileTables Plan.garage.mappings.reverse).toOption.map
      (·.internalTypes.map (·.name)) = some ["Colour", "Car"] := by decide +kernel
  rw [henv] at hnames
  rw [henv'] at hnames'
  exact ⟨s.env, env', henv, henv', Option.some.inj hnames, Option.some.inj hnames',
    (hsame _ _ henv henv').2.2.2.2.1⟩

end LookupEnums
