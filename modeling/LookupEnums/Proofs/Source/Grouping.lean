import LookupEnums.Proofs.Source.Declared
import Mathlib.Data.List.DropRight

/-! # Types by namespace

However the types of different namespaces are interleaved, the source has one block for each
namespace, in the order in which the namespaces first appear, and in it the types of the namespace in
their order. The lines of a type depend on nothing but the type and, for the types its accessors
return, their names and whether they are enumerations of ours. A line feed ends the source, and there
is no empty line before it.
-/
namespace LookupEnums

section
variable {α : Type} [BEq α] [LawfulBEq α] {items : List α} {a b : α}

theorem idxOf_lt_of_filter {p : α → Bool} (hb : p b = true)
    (h : (items.filter p).idxOf a < (items.filter p).idxOf b) : items.idxOf a < items.idxOf b := by
  induction items with
  | nil => exact h
  | cons c items ih =>
    by_cases hcb : c = b
    · subst hcb
      rw [List.filter_cons_of_pos hb, List.idxOf_cons_self] at h
      exact absurd h (Nat.not_lt_zero _)
    rw [List.idxOf_cons_ne _ hcb]
    by_cases hca : c = a
    · rw [hca, List.idxOf_cons_self]
      exact Nat.succ_pos _
    rw [List.idxOf_cons_ne _ hca]
    refine Nat.succ_lt_succ (ih ?_)
    by_cases hc : p c = true
    · rw [List.filter_cons_of_pos hc, List.idxOf_cons_ne _ hca, List.idxOf_cons_ne _ hcb] at h
      exact Nat.lt_of_succ_lt_succ h
    · rwa [List.filter_cons_of_neg hc] at h

/-- What is left without repetition is in the order of first places. -/
theorem eraseDups_ordered (items : List α) :
    items.eraseDups.Pairwise fun a b => items.idxOf a < items.idxOf b := by
  -- the first item is taken out of all the rest, so the induction is on the length
  induction hlength : items.length using Nat.strong_induction_on generalizing items with
  | _ n ih =>
    cases items with
    | nil => simp
    | cons c rest =>
      have hkept : ∀ b ∈ (rest.filter (!· == c)).eraseDups, (!b == c) = true := fun b hb =>
        (List.mem_filter.mp (List.mem_eraseDups.mp hb)).2
      have hne : ∀ b ∈ (rest.filter (!· == c)).eraseDups, c ≠ b := by
        rintro b hb rfl
        simpa using hkept c hb
      have hshorter : (rest.filter (!· == c)).length < n := by
        rw [← hlength, List.length_cons]
        exact Nat.lt_succ_of_le (List.length_filter_le _ _)
      rw [List.eraseDups_cons, List.pairwise_cons]
      constructor
      · intro b hb
        rw [List.idxOf_cons_self, List.idxOf_cons_ne _ (hne b hb)]
        exact Nat.succ_pos _
      · refine (ih _ hshorter _ rfl).imp_of_mem fun ha hb hlt => ?_
        rw [List.idxOf_cons_ne _ (hne _ ha), List.idxOf_cons_ne _ (hne _ hb)]
        exact Nat.succ_lt_succ (idxOf_lt_of_filter (hkept _ hb) hlt)

end

/-- Items taken by their keys, for each key once, are the same items. -/
theorem perm_flatMap_filter {α κ : Type} {key : α → κ} {p : κ → α → Bool}
    (hp : ∀ k a, p k a = true ↔ key a = k) {keys : List κ} (hkeys : keys.Nodup) {items : List α}
    (h : ∀ a ∈ items, key a ∈ keys) : (keys.flatMap fun k => items.filter (p k)).Perm items := by
  induction keys generalizing items with
  | nil =>
    rw [List.eq_nil_iff_forall_not_mem.mpr fun a ha => nomatch h a ha]
    exact .nil
  | cons k keys ih =>
    obtain ⟨hk, hkeys⟩ := List.nodup_cons.mp hkeys
    let others := items.filter (!p k ·)
    have hothers : ∀ a ∈ others, key a ∈ keys := by
      intro a ha
      obtain ⟨ha, hne⟩ := List.mem_filter.mp ha
      rw [Bool.not_eq_true', Bool.eq_false_iff, ne_eq, hp] at hne
      exact (List.mem_cons.mp (h a ha)).resolve_left hne
    have hsame : ∀ k' ∈ keys, items.filter (p k') = others.filter (p k') := by
      intro k' hk'
      rw [List.filter_filter]
      refine List.filter_congr fun a _ => ?_
      cases ha : p k' a with
      | false => rfl
      | true =>
        have hne : p k a = false := by
          rw [Bool.eq_false_iff, ne_eq, hp]
          rintro rfl
          exact hk ((hp k' a).mp ha ▸ hk')
        rw [hne]
        rfl
    rw [List.flatMap_cons, List.flatMap_congr hsame]
    exact ((ih hkeys hothers).append_left _).trans (List.filter_append_perm _ items)

namespace Source

/-- The namespaces of the types, each with its types. -/
def groupsOf (types : List EnumType) : List (String × List EnumType) :=
  (namespaces types).map fun space => (space, typesIn space types)

/-- One group for each namespace, in the order of first appearance, with exactly its types in their
order. -/
structure Grouping (types : List EnumType) (groups : List (String × List EnumType)) : Prop where
  ordered : (groups.map (·.1)).Pairwise fun a b =>
    (types.map (namespaceOf ·.name)).idxOf a < (types.map (namespaceOf ·.name)).idxOf b
  exact : ∀ g ∈ groups, g.2 = types.filter (namespaceOf ·.name = g.1)
  filled : ∀ g ∈ groups, g.2 ≠ []
  covers : ∀ t ∈ types, namespaceOf t.name ∈ groups.map (·.1)

theorem map_fst_groupsOf (types : List EnumType) : (groupsOf types).map (·.1) = namespaces types := by
  rw [groupsOf, List.map_map]
  exact List.map_id _

theorem grouping_groupsOf (types : List EnumType) : Grouping types (groupsOf types) where
  ordered := by
    rw [map_fst_groupsOf]
    exact eraseDups_ordered _
  exact g hg := by
    obtain ⟨space, -, rfl⟩ := List.mem_map.mp hg
    rfl
  filled g hg := by
    obtain ⟨space, hspace, rfl⟩ := List.mem_map.mp hg
    obtain ⟨t, ht, rfl⟩ := List.mem_map.mp (List.mem_eraseDups.mp hspace)
    exact List.ne_nil_of_mem (List.mem_filter.mpr ⟨ht, decide_eq_true rfl⟩)
  covers t ht := by
    rw [map_fst_groupsOf]
    exact List.mem_eraseDups.mpr (List.mem_map_of_mem ht)

/-- Grouped by namespaces the types are the same. -/
theorem perm_flatMap_typesIn (types : List EnumType) :
    ((namespaces types).flatMap fun space => typesIn space types).Perm types :=
  perm_flatMap_filter (fun _ _ => decide_eq_true_iff) (nodup_eraseDups _) fun _ ht =>
    List.mem_eraseDups.mpr (List.mem_map_of_mem ht)

/-- Accessors that are written alike: of the type returned, the name counts and whether it is ours. -/
structure WrittenAlike (a a' : Accessor) : Prop where
  name : a'.name = a.name
  owner : a'.owner.name = a.owner.name
  coercion : a'.coercion = a.coercion
  cases : a'.cases = a.cases
  returned : a'.returns.name = a.returns.name
  ours : a'.returns.isInternal = a.returns.isInternal

theorem accessorLines_congr {a a' : Accessor} (h : WrittenAlike a a') (depth : Nat) :
    accessorLines depth a' = accessorLines depth a := by
  have hreturn : returnName a'.returns a'.owner.name = returnName a.returns a.owner.name := by
    unfold returnName
    rw [h.ours, h.returned, h.owner]
  unfold accessorLines accessorHead accessorBody
  rw [hreturn, h.name, h.owner, h.coercion, h.cases]

theorem extensionLines_congr {accessors accessors' : List Accessor}
    (h : List.Forall₂ WrittenAlike accessors accessors') (depth : Nat) (t : EnumType) :
    extensionLines depth t accessors' = extensionLines depth t accessors := by
  have hlines : accessors'.map (accessorLines (depth + 1)) =
      accessors.map (accessorLines (depth + 1)) := by
    induction h with
    | nil => rfl
    | cons hfirst _ ih => rw [List.map_cons, List.map_cons, accessorLines_congr hfirst, ih]
  cases h with
  | nil => rfl
  | cons _ _ => rw [extensionLines, extensionLines, hlines] <;> exact List.cons_ne_nil _ _

theorem typeLines_congr {env env' : TypeEnv} {t : EnumType}
    (h : List.Forall₂ WrittenAlike (env.accessorsOf t) (env'.accessorsOf t)) (depth : Nat) :
    typeLines env' depth t = typeLines env depth t := by
  rw [typeLines, typeLines, extensionLines_congr h]

theorem render_ends (unit : Nat) (env : TypeEnv) :
    ∃ front c, (render unit env).toList = front ++ [c, '\n'] ∧ c ≠ '\n' := by
  generalize htext : ['\n'].intercalate ((sourceLines env).map (·.render unit)) = text
  have hslash : '/' ∈ text := by
    have hfirst : '/' ∈ Line.render unit ⟨0, "// <auto-generated>"⟩ := by
      rw [Line.render, if_neg (by decide)]
      exact List.mem_append_right _ (by decide)
    rw [← htext, sourceLines, header, List.cons_append, List.cons_append, List.map_cons, List.map_cons,
      List.intercalate_cons_cons]
    exact List.mem_append_left _ (List.mem_append_left _ hfirst)
  have hne : text.rdropWhile (· = '\n') ≠ [] := fun hnil =>
    absurd (List.rdropWhile_eq_nil_iff.mp hnil '/' hslash) (by decide)
  refine ⟨(text.rdropWhile (· = '\n')).dropLast, (text.rdropWhile (· = '\n')).getLast hne, ?_, ?_⟩
  · rw [render, htext, String.toList_ofList]
    change text.rdropWhile (· = '\n') ++ ['\n'] = _
    rw [List.append_cons (text.rdropWhile (· = '\n')).dropLast, List.dropLast_append_getLast]
  · simpa using List.rdropWhile_last_not (· = '\n') text hne

/-- The source of an environment has its types in groups, each type once. The lines of a type depend
on the type, on its accessors and on the name and the kind of what these return, in any environment.
One line feed ends the source. -/
theorem render_grouped (env : TypeEnv) (unit : Nat) :
    (Grouping env.internalTypes (groupsOf env.internalTypes) ∧
      ((groupsOf env.internalTypes).flatMap (·.2)).Perm env.internalTypes ∧
      render unit env = renderOutline unit
        ((groupsOf env.internalTypes).map fun g => (g.1, g.2.map (typeLines env (typeDepth g.1))))) ∧
    (∀ (env' : TypeEnv) (t : EnumType) (depth : Nat),
      List.Forall₂ WrittenAlike (env.accessorsOf t) (env'.accessorsOf t) →
        typeLines env' depth t = typeLines env depth t) ∧
    ∃ front c, (render unit env).toList = front ++ [c, '\n'] ∧ c ≠ '\n' := by
  refine ⟨⟨grouping_groupsOf _, ?_, ?_⟩, fun env' t depth h => typeLines_congr h depth,
    render_ends unit env⟩
  · rw [groupsOf, List.flatMap_map]
    exact perm_flatMap_typesIn env.internalTypes
  · rw [render_eq_renderOutline, outline, groupsOf, List.map_map]
    rfl

def paint : Accessor where
  id := ⟨"Acme.Car", "Paint"⟩
  owner := ⟨"Acme.Car", none⟩
  returns := TypeEnv.nodeAt .unresolved "Acme.Color"
  coercion := false
  nullable := false

/-- The colours are not ours yet when what the accessor returns is settled. -/
def unpainted : TypeEnv :=
  ((((TypeEnv.empty.define "Acme.Car" []).define "Ape" []).reference "Acme.Color").declare
    paint).settleReturn paint.id

def painted : TypeEnv :=
  (unpainted.define "Acme.Color" []).settleReturn paint.id

def car : EnumType where
  id := ⟨"Acme.Car", none⟩
  attributes := []
  accessorNames := ["Paint"]

theorem render_grouped_painted :
    (groupsOf painted.internalTypes).map (fun g => (g.1, g.2.map EnumType.name)) =
        [("Acme", ["Acme.Car", "Acme.Color"]), ("", ["Ape"])] ∧
      List.Forall₂ WrittenAlike (painted.accessorsOf car)
        ((painted.define "Acme.Lorry" []).accessorsOf car) ∧
      typeLines (painted.define "Acme.Lorry" []) 1 car = typeLines painted 1 car := by
  have halike : List.Forall₂ WrittenAlike (painted.accessorsOf car)
      ((painted.define "Acme.Lorry" []).accessorsOf car) :=
    .cons ⟨rfl, rfl, rfl, rfl, rfl, rfl⟩ .nil
  exact ⟨by decide +kernel, halike, (render_grouped painted 4).2.1 _ car 1 halike⟩

/-- The same type with the same accessors, the types they return having the same names, is written
with other lines where a returned type is ours. -/
theorem typeLines_painted :
    car ∈ unpainted.internalTypes ∧ car ∈ painted.internalTypes ∧
      painted.accessorsOf car = (unpainted.accessorsOf car).map
        (fun a => { a with returns := ⟨.internal, a.returns.id⟩ }) ∧
      typeLines unpainted 1 car ≠ typeLines painted 1 car :=
  ⟨.head _, .head _, rfl, by decide +kernel⟩

end Source

end LookupEnums
