import LookupEnums.Proofs.TypeEnv.Lookup
import LookupEnums.Source.Layout
import LookupEnums.Summary
import Mathlib.Data.List.Forall2
import Mathlib.Data.String.Basic

/-! # The order of arrival

Environments that hold the same names, enumerations and accessors in different orders answer every
question about one of them alike. What they are summarized and written as differs in the order of
the types and of their namespaces and in nothing else.
-/
namespace LookupEnums
open Source

namespace Source

def outline (env : TypeEnv) : List (String × List (List Line)) :=
  (namespaces env.internalTypes).map fun space =>
    (space, (typesIn space env.internalTypes).map (typeLines env (if space.isEmpty then 0 else 1)))

def spaceLines (space : String) (blocks : List (List Line)) : List Line :=
  if space.isEmpty then spaced blocks ++ [Line.blank]
  else ⟨0, "namespace " ++ space⟩ :: braced 0 (spaced blocks) ++ [Line.blank]

def renderOutline (unit : Nat) (spaces : List (String × List (List Line))) : String :=
  let lines := header ++ spaces.flatMap fun (space, blocks) => spaceLines space blocks
  String.ofList (trimLineFeeds (['\n'].intercalate (lines.map (·.render unit))) ++ ['\n'])

theorem namespaceLines_eq (env : TypeEnv) (space : String) (types : List EnumType) :
    namespaceLines env space types =
      spaceLines space (types.map (typeLines env (if space.isEmpty then 0 else 1))) := by
  unfold namespaceLines spaceLines
  by_cases h : space.isEmpty
  · rw [if_pos h, if_pos h, if_pos h]
  · rw [if_neg h, if_neg h, if_neg h]

/-- The outline is all that is written of an environment. -/
theorem render_eq_renderOutline (unit : Nat) (env : TypeEnv) :
    render unit env = renderOutline unit (outline env) := by
  have hlines : sourceLines env =
      header ++ (outline env).flatMap fun (space, blocks) => spaceLines space blocks := by
    simp only [sourceLines, outline, List.flatMap_map, namespaceLines_eq]
  rw [render, hlines]
  rfl

def SameOutline (spaces spaces' : List (String × List (List Line))) : Prop :=
  ∃ order, spaces.Perm order ∧
    List.Forall₂ (fun x y => x.1 = y.1 ∧ x.2.Perm y.2) order spaces'

end Source

theorem nodup_eraseDups {α : Type} [BEq α] [LawfulBEq α] (items : List α) :
    items.eraseDups.Nodup := by
  induction hlen : items.length using Nat.strong_induction_on generalizing items with
  | _ n ih =>
    cases items with
    | nil => simp
    | cons a rest =>
      rw [List.eraseDups_cons, List.nodup_cons, List.mem_eraseDups]
      refine ⟨by simp, ih _ ?_ _ rfl⟩
      rw [← hlen, List.length_cons]
      exact Nat.lt_succ_of_le (List.length_filter_le _ _)

theorem perm_eraseDups {α : Type} [BEq α] [LawfulBEq α] {items items' : List α}
    (h : items.Perm items') : items.eraseDups.Perm items'.eraseDups := by
  refine (List.perm_ext_iff_of_nodup (nodup_eraseDups _) (nodup_eraseDups _)).mpr fun a => ?_
  rw [List.mem_eraseDups, List.mem_eraseDups, h.mem_iff]

/-- The same content in different orders; in neither is anything there twice. -/
structure SameContent (env env' : TypeEnv) : Prop where
  stages : env.stages.Perm env'.stages
  enums : env.enums.Perm env'.enums
  accessors : env.accessors.Perm env'.accessors
  stageNames : (env.stages.map (·.1)).Nodup
  enumIds : (env.enums.map (·.id)).Nodup
  accessorIds : (env.accessors.map (·.id)).Nodup

namespace SameContent
variable {env env' : TypeEnv}

theorem enum?_eq (h : SameContent env env') (id : TypeId) : env.enum? id = env'.enum? id :=
  Keyed.find?_perm h.enumIds h.enums id

theorem accessor?_eq (h : SameContent env env') (id : AccessorId) :
    env.accessor? id = env'.accessor? id :=
  Keyed.find?_perm h.accessorIds h.accessors id

theorem internalTypes_perm (h : SameContent env env') :
    env.internalTypes.Perm env'.internalTypes := by
  have hnames : env.internalNames.Perm env'.internalNames := h.stages.filterMap _
  have henum : (fun name => env.enum? ⟨name, none⟩) = fun name => env'.enum? ⟨name, none⟩ :=
    funext fun name => h.enum?_eq ⟨name, none⟩
  unfold TypeEnv.internalTypes
  rw [henum]
  exact hnames.filterMap _

theorem accessorsOf_eq (h : SameContent env env') (t : EnumType) :
    env.accessorsOf t = env'.accessorsOf t := by
  unfold TypeEnv.accessorsOf
  congr 1
  funext name
  exact h.accessor?_eq ⟨t.name, name⟩

theorem summarizeType_eq (h : SameContent env env') : env.summarizeType = env'.summarizeType := by
  have haccessor : env.summarizeAccessor = env'.summarizeAccessor := by
    funext owner a
    unfold TypeEnv.summarizeAccessor TypeEnv.missing
    rw [h.enum?_eq]
  funext t
  unfold TypeEnv.summarizeType
  rw [h.accessorsOf_eq, haccessor]

theorem summarize_types (h : SameContent env env') :
    env.summarize.types.Perm env'.summarize.types := by
  change (env.internalTypes.map env.summarizeType).Perm (env'.internalTypes.map env'.summarizeType)
  rw [h.summarizeType_eq]
  exact h.internalTypes_perm.map _

theorem summarize_externalTypes (h : SameContent env env') :
    env.summarize.externalTypes = env'.summarize.externalTypes := by
  have hnames : env.externalNames.Perm env'.externalNames := h.stages.filterMap _
  -- sorted lists of the same names are equal
  have hsorted : ∀ names : List String,
      (names.mergeSort (· ≤ ·)).Pairwise fun a b => decide (a ≤ b) = true := by
    refine List.pairwise_mergeSort ?_ ?_
    · intro a b c hab hbc
      exact decide_eq_true (le_trans (of_decide_eq_true hab) (of_decide_eq_true hbc))
    · intro a b
      simpa using le_total a b
  refine List.Perm.eq_of_pairwise ?_ (hsorted _) (hsorted _) ?_
  · intro a b _ _ hab hba
    exact le_antisymm (of_decide_eq_true hab) (of_decide_eq_true hba)
  · exact ((List.mergeSort_perm _ _).trans hnames).trans (List.mergeSort_perm _ _).symm

theorem typeLines_eq (h : SameContent env env') (depth : Nat) :
    typeLines env depth = typeLines env' depth := by
  funext t
  unfold typeLines
  rw [h.accessorsOf_eq]

theorem outline_same (h : SameContent env env') : SameOutline (outline env) (outline env') := by
  have htypes := h.internalTypes_perm
  have hspaces : (namespaces env.internalTypes).Perm (namespaces env'.internalTypes) :=
    perm_eraseDups (htypes.map _)
  refine ⟨_, hspaces.map _, ?_⟩
  rw [outline, List.forall₂_map_left_iff, List.forall₂_map_right_iff, List.forall₂_same]
  intro space _
  refine ⟨rfl, ?_⟩
  rw [h.typeLines_eq]
  exact (htypes.filter _).map _

end SameContent

end LookupEnums
