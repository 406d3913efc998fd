import Mathlib.Data.List.Nodup

/-! # Items by their keys

Lists in which an item is found by its key: what is found where no key is there twice, and what a
change of the items of one key leaves.
-/
namespace LookupEnums.Keyed
variable {α ι : Type} [DecidableEq ι] {key : α → ι} {change : α → α} {items : List α} {k : ι}

theorem find?_map_update (hkey : ∀ a, key a = k → key (change a) = k) (items : List α) (other : ι) :
    (items.map fun a => if key a = k then change a else a).find? (fun a => decide (key a = other)) =
      if other = k then (items.find? fun a => decide (key a = k)).map change
      else items.find? fun a => decide (key a = other) := by
  have hpred : ((fun a => decide (key a = other)) ∘ fun a => if key a = k then change a else a) =
      fun a => decide (key a = other) := by
    funext a
    by_cases ha : key a = k <;> simp [ha, hkey]
  rw [List.find?_map, hpred]
  by_cases ho : other = k
  · subst ho
    rw [if_pos rfl]
    cases hf : items.find? (fun a => decide (key a = other)) with
    | none => rfl
    | some a =>
      have ha : key a = other := by simpa using List.find?_some hf
      simp [ha]
  · rw [if_neg ho]
    cases hf : items.find? (fun a => decide (key a = other)) with
    | none => rfl
    | some a =>
      have ha : key a = other := by simpa using List.find?_some hf
      simp [ha, ho]

theorem map_key_update (hkey : ∀ a, key a = k → key (change a) = k) (items : List α) :
    (items.map fun a => if key a = k then change a else a).map key = items.map key := by
  rw [List.map_map]
  apply List.map_congr_left
  intro a _
  by_cases ha : key a = k <;> simp [ha, hkey]

omit [DecidableEq ι] in
/-- One item in front of items whose keys are new, also against its own key. -/
theorem fresh_cons {seen : List ι} {a : α} (ha : key a ∉ seen)
    (h : (items.map key).Nodup ∧ ∀ b ∈ items, key b ∉ key a :: seen) :
    ((a :: items).map key).Nodup ∧ ∀ b ∈ a :: items, key b ∉ seen := by
  constructor
  · rw [List.map_cons, List.nodup_cons]
    refine ⟨?_, h.1⟩
    intro hmem
    obtain ⟨b, hb, hba⟩ := List.mem_map.mp hmem
    exact h.2 b hb (hba ▸ List.mem_cons_self)
  · intro b hb
    rcases List.mem_cons.mp hb with rfl | hb
    · exact ha
    · exact fun hm => h.2 b hb (List.mem_cons_of_mem _ hm)

/-- An item whose key is not found can go to the end. -/
theorem nodup_concat (h : (items.map key).Nodup) {a : α}
    (hnone : items.find? (fun b => decide (key b = key a)) = none) :
    ((items ++ [a]).map key).Nodup := by
  rw [List.map_append, List.nodup_append]
  refine ⟨h, by simp, ?_⟩
  intro k hk other hother hsame
  rw [List.map_singleton, List.mem_singleton] at hother
  obtain ⟨b, hb, rfl⟩ := List.mem_map.mp hk
  have hne := List.find?_eq_none.mp hnone b hb
  simp [hsame, hother] at hne

/-- Where no key is there twice, an item is found by its own. -/
theorem find?_key (h : (items.map key).Nodup) {a : α} (ha : a ∈ items) :
    items.find? (fun b => decide (key b = key a)) = some a := by
  cases hf : items.find? (fun b => decide (key b = key a)) with
  | none =>
    have hne := List.find?_eq_none.mp hf a ha
    simp at hne
  | some b =>
    have hb : key b = key a := by simpa using List.find?_some hf
    rw [List.inj_on_of_nodup_map h (List.mem_of_find?_eq_some hf) ha hb]

/-- Where no key is there twice, the order does not matter for what is found. -/
theorem find?_perm {items' : List α} (h : (items.map key).Nodup) (hperm : items.Perm items') (k : ι) :
    items.find? (fun a => decide (key a = k)) = items'.find? (fun a => decide (key a = k)) := by
  cases hf : items.find? (fun a => decide (key a = k)) with
  | none =>
    refine Eq.symm (List.find?_eq_none.mpr fun a ha => ?_)
    exact List.find?_eq_none.mp hf a (hperm.mem_iff.mpr ha)
  | some a =>
    have hmem : a ∈ items' := hperm.mem_iff.mp (List.mem_of_find?_eq_some hf)
    have hkey : key a = k := by simpa using List.find?_some hf
    exact hkey ▸ (find?_key ((hperm.map key).nodup_iff.mp h) hmem).symm

omit [DecidableEq ι] in
/-- Among items no two of which are alike, those that pass a test only alike items pass are one. -/
theorem filter_eq_singleton {alike : α → α → Prop} {test : α → Bool}
    (hpair : items.Pairwise fun a b => ¬ alike a b)
    (halike : ∀ a ∈ items, ∀ b ∈ items, test a = true → test b = true → alike a b) {a : α}
    (ha : a ∈ items) (htest : test a = true) : items.filter test = [a] := by
  have hmem : a ∈ items.filter test := List.mem_filter.mpr ⟨ha, htest⟩
  have hrest := hpair.sublist (List.filter_sublist (p := test))
  match hfilter : items.filter test with
  | [] => simp [hfilter] at hmem
  | [b] =>
    rw [hfilter, List.mem_singleton] at hmem
    rw [hmem]
  | b :: c :: rest =>
    rw [hfilter] at hrest
    obtain ⟨hb, hpass⟩ := List.mem_filter.mp (hfilter ▸ List.mem_cons_self : b ∈ items.filter test)
    obtain ⟨hc, hpass'⟩ := List.mem_filter.mp
      (hfilter ▸ List.mem_cons_of_mem _ List.mem_cons_self : c ∈ items.filter test)
    exact absurd (halike b hb c hc hpass hpass')
      ((List.pairwise_cons.mp hrest).1 c List.mem_cons_self)

theorem mem_iff_lookup {β : Type} {entries : List (ι × β)} (h : (entries.map (·.1)).Nodup) {k : ι}
    {b : β} : (k, b) ∈ entries ↔ entries.lookup k = some b := by
  induction entries with
  | nil => simp
  | cons entry rest ih =>
    obtain ⟨l, c⟩ := entry
    rw [List.map_cons, List.nodup_cons] at h
    rw [List.mem_cons, List.lookup_cons, ih h.2]
    by_cases hl : k = l
    · subst hl
      have hnew : rest.lookup k ≠ some b := by
        intro hb
        exact h.1 (List.mem_map.mpr ⟨(k, b), (ih h.2).mpr hb, rfl⟩)
      simp [hnew, eq_comm]
    · simp [hl, beq_eq_false_iff_ne.mpr hl]

theorem lookup_filterMap_of_not_mem {β : Type} {made : α → Option (ι × β)}
    (hkey : ∀ a e, made a = some e → e.1 = key a) (hk : k ∉ items.map key) :
    (items.filterMap made).lookup k = none := by
  refine List.lookup_eq_none_iff.mpr fun (e : ι × β) he => ?_
  obtain ⟨a, ha, hmade⟩ := List.mem_filterMap.mp he
  have hne : k ≠ e.1 := fun hsame => hk (hsame ▸ hkey a e hmade ▸ List.mem_map_of_mem ha)
  exact bne_iff_ne.mpr hne

/-- Where no key is there twice, an item has the entry that was made of it. -/
theorem lookup_filterMap {β : Type} {made : α → Option (ι × β)}
    (hkey : ∀ a e, made a = some e → e.1 = key a) (h : (items.map key).Nodup) {a : α}
    (ha : a ∈ items) : (items.filterMap made).lookup (key a) = (made a).map (·.2) := by
  induction items with
  | nil => cases ha
  | cons b rest ih =>
    rw [List.map_cons, List.nodup_cons] at h
    rw [List.filterMap_cons]
    rcases List.mem_cons.mp ha with rfl | hrest
    · cases hmade : made a with
      | none => exact lookup_filterMap_of_not_mem hkey h.1
      | some e =>
        obtain ⟨l, b⟩ := e
        have hl : l = key a := hkey a _ hmade
        simp [hl]
    · have hne : key a ≠ key b := fun hsame => h.1 (hsame ▸ List.mem_map_of_mem hrest)
      cases hmade : made b with
      | none => exact ih h.2 hrest
      | some e =>
        obtain ⟨l, c⟩ := e
        have hl : l = key b := hkey b _ hmade
        simp only [List.lookup_cons, hl, beq_false_of_ne hne]
        exact ih h.2 hrest

omit [DecidableEq ι] in
/-- What is made of the items keeps their keys, in order. -/
theorem sublist_map_filterMap {β : Type} {made : α → Option β} {keyOf : β → ι}
    (hkey : ∀ a e, made a = some e → keyOf e = key a) (items : List α) :
    ((items.filterMap made).map keyOf).Sublist (items.map key) := by
  induction items with
  | nil => exact List.Sublist.slnil
  | cons a rest ih =>
    rw [List.filterMap_cons]
    cases hmade : made a with
    | none => exact ih.cons (key a)
    | some e =>
      rw [List.map_cons, List.map_cons, hkey a e hmade]
      exact ih.cons_cons (key a)

end LookupEnums.Keyed
