import LookupEnums.Proofs.TypeEnv.Lookup
import Mathlib.Logic.Function.Basic

/-! # The part of one table

What an environment holds of a table: its enumeration and its accessors by name. An operation for
one table changes that table's part in a known way and leaves the parts of all others alone.
-/
namespace LookupEnums

structure TablePart where
  enum : Option EnumType
  accessor : String → Option Accessor

namespace TablePart

def empty : TablePart := ⟨none, fun _ => none⟩

end TablePart

namespace TypeEnv
variable (env : TypeEnv)

def part (t : String) : TablePart :=
  ⟨env.enum? ⟨t, none⟩, fun name => env.accessor? ⟨t, name⟩⟩

theorem part_congr {env env' : TypeEnv} (henums : env'.enums = env.enums)
    (haccessors : env'.accessors = env.accessors) (t : String) : env'.part t = env.part t := by
  unfold part enum? accessor?
  rw [henums, haccessors]

@[simp] theorem part_reference (name t : String) : (env.reference name).part t = env.part t :=
  part_congr (enums_reference env name) (accessors_reference env name) t

@[simp] theorem part_ground (node : TypeNode) (t : String) :
    (env.ground node).part t = env.part t :=
  part_congr (enums_ground env node) (accessors_ground env node) t

theorem part_updateEnum (t : String) (change : EnumType → EnumType)
    (hid : ∀ e, e.id = ⟨t, none⟩ → (change e).id = ⟨t, none⟩) (u : String) :
    (env.updateEnum ⟨t, none⟩ change).part u =
      if u = t then { env.part t with enum := (env.part t).enum.map change } else env.part u := by
  have henum := enum?_updateEnum env hid ⟨u, none⟩
  by_cases hu : u = t
  · subst hu
    rw [if_pos rfl] at henum ⊢
    unfold part
    rw [henum]
    rfl
  · have hid' : ¬ (⟨u, none⟩ : TypeId) = ⟨t, none⟩ := by simpa using hu
    rw [if_neg hid'] at henum
    rw [if_neg hu]
    unfold part
    rw [henum]
    rfl

theorem part_setKeyType (t keyType u : String) :
    (env.setKeyType ⟨t, none⟩ keyType).part u =
      if u = t then
        { env.part t with
          enum := (env.part t).enum.map fun e => { e with keyType := some keyType } }
      else env.part u := by
  apply part_updateEnum
  intro e he
  exact he

theorem part_updateAccessor (id : AccessorId) (change : Accessor → Accessor)
    (hid : ∀ a, a.id = id → (change a).id = id) (u : String) :
    (env.updateAccessor id change).part u =
      if u = id.owner then
        { env.part u with
          accessor := Function.update (env.part u).accessor id.name
            (((env.part u).accessor id.name).map change) }
      else env.part u := by
  have haccessor : ∀ name, (env.updateAccessor id change).accessor? ⟨u, name⟩ =
      if (⟨u, name⟩ : AccessorId) = id then (env.accessor? id).map change
      else env.accessor? ⟨u, name⟩ := fun name => accessor?_updateAccessor env hid ⟨u, name⟩
  obtain ⟨owner, own⟩ := id
  by_cases hu : u = owner
  · subst hu
    rw [if_pos rfl]
    unfold part
    congr 1
    funext name
    rw [haccessor name]
    by_cases hn : name = own
    · subst hn
      simp
    · have hne : ¬ (⟨u, name⟩ : AccessorId) = ⟨u, own⟩ := by simpa using hn
      rw [if_neg hne, Function.update_of_ne hn]
  · rw [if_neg hu]
    unfold part
    congr 1
    funext name
    have hne : ¬ (⟨u, name⟩ : AccessorId) = ⟨owner, own⟩ := by simp [hu]
    rw [haccessor name, if_neg hne]

theorem part_define (t u : String) (attributes : List String) :
    (env.define t attributes).part u =
      if u = t ∧ env.stage? t ≠ some .internal then
        { env.part u with
          enum := (env.part u).enum.or (some { id := ⟨t, none⟩, attributes }) }
      else env.part u := by
  have haccessor : ∀ name, (env.define t attributes).accessor? ⟨u, name⟩ = env.accessor? ⟨u, name⟩ := by
    intro name
    unfold accessor?
    rw [accessors_define]
  have henum := enum?_define env t attributes ⟨u, none⟩
  unfold part
  rw [henum]
  by_cases hs : env.stage? t = some .internal
  · simp [hs, haccessor]
  · by_cases hu : u = t
    · subst hu
      simp [hs, haccessor]
    · simp [hs, hu, haccessor]

theorem part_declare {a : Accessor} (howner : a.owner = ⟨a.id.owner, none⟩)
    (h : env.accessor? a.id = none) (u : String) :
    (env.declare a).part u =
      if u = a.id.owner then
        { enum := (env.part u).enum.map fun e =>
            { e with accessorNames := e.accessorNames ++ [a.name] }
          accessor := Function.update (env.part u).accessor a.name (some a) }
      else env.part u := by
  have hlast : ∀ name, ({ env with accessors := env.accessors ++ [a] } : TypeEnv).accessor? ⟨u, name⟩ =
      if (⟨u, name⟩ : AccessorId) = a.id then some a else env.accessor? ⟨u, name⟩ := by
    intro name
    unfold accessor?
    rw [List.find?_append]
    by_cases hid : (⟨u, name⟩ : AccessorId) = a.id
    · have hnone : env.accessors.find? (fun b => decide (b.id = ⟨u, name⟩)) = none := hid ▸ h
      rw [hnone, if_pos hid]
      simp [hid]
    · have hid' : ¬ a.id = ⟨u, name⟩ := fun h => hid h.symm
      simp [hid, hid']
  rw [declare_of_new env h, howner, part_updateEnum]
  · obtain ⟨⟨owner, own⟩, _, returns, coercion, nullable, cases⟩ := a
    by_cases hu : u = owner
    · subst hu
      simp only [if_true]
      unfold part
      congr 1
      funext name
      refine (hlast name).trans ?_
      by_cases hn : name = own
      · subst hn
        simp [Accessor.name]
      · simp [Accessor.name, hn]
    · rw [if_neg hu, if_neg hu]
      unfold part
      congr 1
      funext name
      exact (hlast name).trans (by simp [hu])
  · intro e he
    exact he

end TypeEnv

end LookupEnums
