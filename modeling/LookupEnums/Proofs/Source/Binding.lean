import LookupEnums.Proofs.Source.Path
import LookupEnums.Source.Layout

/-! # What a written name stands for

A dotted name in the source is read from its first identifier on. That identifier is looked for
among the accessors of the class it is written in, then in the namespaces around the class from the
inside out, and the first of these to know it decides; each further identifier is looked for in the
namespace the ones before it lead to.
-/
namespace LookupEnums.Source

inductive Declaration
  | enumeration (name : String)
  /-- The class of the accessors of an enumeration. -/
  | extensions (owner : String)
  deriving DecidableEq, Repr

def Declaration.path : Declaration → List (List Char)
  | enumeration name => Source.path name
  | extensions owner => scopeOf owner ++ [(shortName owner ++ "Extensions").toList]

/-- Each enumeration, and the class of its accessors where it has any. -/
def declarations (env : TypeEnv) : List Declaration :=
  env.internalTypes.flatMap fun t =>
    .enumeration t.name :: if (env.accessorsOf t).isEmpty then [] else [.extensions t.name]

inductive Entity
  | accessor
  | space (around : List (List Char))
  | type (d : Declaration)
  /-- More than one thing goes by the name. -/
  | ambiguous
  deriving DecidableEq, Repr

/-- What goes by a path: the declaration there if nothing else lies there or further in, and a
namespace where all declarations lie further in. -/
def entityAt (ds : List Declaration) (place : List (List Char)) : Option Entity :=
  match ds.find? (·.path = place) with
  | some d => some (if ∀ e ∈ ds, place <+: e.path → e = d then .type d else .ambiguous)
  | none => if ∃ e ∈ ds, place <+: e.path then some (.space place) else none

/-- What further identifiers lead to. Only namespaces have members that are types. -/
def follow (ds : List Declaration) : Entity → List (List Char) → Option Entity
  | e, [] => some e
  | .space around, x :: rest => (entityAt ds (around ++ [x])).bind (follow ds · rest)
  | _, _ :: _ => none

/-- What is found in the innermost of the namespaces in which anything is. -/
def outward {α : Type} (found : List (List Char) → Option α) : List (List Char) → Option α
  | [] => found []
  | x :: rest => (outward (fun inner => found (x :: inner)) rest).or (found [])

def lookup (ds : List Declaration) (accessors scope : List (List Char)) :
    List (List Char) → Option Entity
  | [] => none
  | x :: rest =>
    if x ∈ accessors then follow ds .accessor rest
    else (outward (fun around => entityAt ds (around ++ [x])) scope).bind (follow ds · rest)

def denoted (env : TypeEnv) (owner : EnumType) (text : String) : Option Entity :=
  lookup (declarations env) (owner.accessorNames.map String.toList) (scopeOf owner.name) (path text)

section
variable {ds : List Declaration} {place rest : List (List Char)} {x : List Char} {d : Declaration}

theorem find?_path (h : ds.find? (·.path = place) = some d) : d ∈ ds ∧ d.path = place :=
  ⟨List.mem_of_find?_eq_some h, by simpa using List.find?_some h⟩

theorem entityAt_eq_none_iff : entityAt ds place = none ↔ ∀ e ∈ ds, ¬ place <+: e.path := by
  unfold entityAt
  split
  next first hfind =>
    obtain ⟨hfirst, hpath⟩ := find?_path hfind
    exact ⟨nofun, fun h => absurd (hpath ▸ List.prefix_rfl) (h first hfirst)⟩
  next => simp

theorem entityAt_eq_space_iff {around : List (List Char)} :
    entityAt ds place = some (.space around) ↔
      around = place ∧ (∃ e ∈ ds, place <+: e.path) ∧ ∀ e ∈ ds, e.path ≠ place := by
  unfold entityAt
  split
  next first hfind =>
    obtain ⟨hfirst, hpath⟩ := find?_path hfind
    refine ⟨fun h => ?_, fun h => absurd hpath (h.2.2 first hfirst)⟩
    split at h <;> cases h
  next hnone =>
    have hnone : ∀ e ∈ ds, e.path ≠ place := by simpa using hnone
    split
    next hsome =>
      rw [Option.some.injEq, Entity.space.injEq]
      exact ⟨fun h => ⟨h.symm, hsome, hnone⟩, fun h => h.1.symm⟩
    next hsome => exact ⟨nofun, fun h => absurd h.2.1 hsome⟩

theorem entityAt_eq_type_iff :
    entityAt ds place = some (.type d) ↔
      d ∈ ds ∧ d.path = place ∧ ∀ e ∈ ds, place <+: e.path → e = d := by
  unfold entityAt
  split
  next first hfind =>
    obtain ⟨hfirst, hpath⟩ := find?_path hfind
    constructor
    · intro h
      split at h <;> cases h
      next honly => exact ⟨hfirst, hpath, honly⟩
    · rintro ⟨-, -, honly⟩
      obtain rfl : first = d := honly first hfirst (hpath ▸ List.prefix_rfl)
      rw [if_pos honly]
  next hnone =>
    have hnone : ∀ e ∈ ds, e.path ≠ place := by simpa using hnone
    refine ⟨fun h => ?_, fun h => absurd h.2.1 (hnone d h.1)⟩
    split at h <;> cases h

/-- Beyond a place on its way, a path on the same line goes on with the same identifier. -/
theorem prefix_next {p q : List (List Char)} (h : place <+: p) (hne : p ≠ place)
    (hnext : place ++ [x] <+: q) (hcomparable : p <+: q ∨ q <+: p) : place ++ [x] <+: p := by
  rcases hcomparable with hpq | hqp
  · refine List.prefix_of_prefix_length_le hnext hpq ?_
    have hlength : place.length ≠ p.length := fun hlength => hne (h.eq_of_length hlength).symm
    have hle := h.length_le
    simp only [List.length_append, List.length_singleton]
    omega
  · exact hnext.trans hqp

theorem follow_cons_eq_type_iff {e : Entity} :
    follow ds e (x :: rest) = some (.type d) ↔
      ∃ around, e = .space around ∧ (entityAt ds (around ++ [x])).bind (follow ds · rest) = some (.type d) := by
  cases e with
  | space around => simp [follow]
  | _ => simp [follow]

/-- A path leads to a declaration where no other declaration lies on the way or beyond. -/
theorem follow_eq_type_iff :
    (entityAt ds place).bind (follow ds · rest) = some (.type d) ↔
      d ∈ ds ∧ d.path = place ++ rest ∧
        ∀ e ∈ ds, place <+: e.path → (e.path <+: d.path ∨ d.path <+: e.path) → e = d := by
  -- on the identifiers still to be read; `place` is where those read so far have led
  induction rest generalizing place with
  | nil =>
    have hend : ∀ e, follow ds e [] = some e := fun e => by cases e <;> rfl
    have hbind : (entityAt ds place).bind (follow ds · []) = entityAt ds place := by
      simp only [hend, Option.bind_fun_some]
    rw [hbind, entityAt_eq_type_iff, List.append_nil]
    refine and_congr_right fun _ => and_congr_right fun hpath => ?_
    rw [hpath]
    exact ⟨fun h e he hplace _ => h e he hplace, fun h e he hplace => h e he hplace (Or.inr hplace)⟩
  | cons x rest ih =>
    rw [Option.bind_eq_some_iff]
    simp only [follow_cons_eq_type_iff, ih]
    constructor
    · rintro ⟨_, hplace, around, rfl, hd, hpath, honly⟩
      obtain ⟨rfl, -, hnone⟩ := entityAt_eq_space_iff.mp hplace
      have hnext : around ++ [x] <+: d.path := hpath ▸ List.prefix_append _ _
      rw [List.append_assoc] at hpath
      refine ⟨hd, hpath, fun e he hbegins hcomparable => honly e he ?_ hcomparable⟩
      exact prefix_next hbegins (hnone e he) hnext hcomparable
    · rintro ⟨hd, hpath, honly⟩
      have hbegins : place <+: d.path := hpath ▸ List.prefix_append _ _
      have hnone : ∀ e ∈ ds, e.path ≠ place := by
        -- such a type would be the declaration itself, whose path is longer
        rintro e he rfl
        obtain rfl := honly e he List.prefix_rfl (Or.inl hbegins)
        simp at hpath
      refine ⟨_, entityAt_eq_space_iff.mpr ⟨rfl, ⟨d, hd, hbegins⟩, hnone⟩, place, rfl, hd, ?_, ?_⟩
      · rw [hpath, List.append_assoc]
        rfl
      · exact fun e he hnext => honly e he ((List.prefix_append _ _).trans hnext)

theorem outward_eq_none_iff {α : Type} {found : List (List Char) → Option α}
    {scope : List (List Char)} : outward found scope = none ↔ ∀ s, s <+: scope → found s = none := by
  induction scope generalizing found with
  | nil => simp [outward]
  | cons x rest ih =>
    rw [outward, Option.or_eq_none_iff, ih]
    constructor
    · rintro ⟨hinner, hhere⟩ s hs
      rcases List.prefix_cons_iff.mp hs with rfl | ⟨t, rfl, ht⟩
      · exact hhere
      · exact hinner t ht
    · intro h
      exact ⟨fun s hs => h (x :: s) (List.cons_prefix_cons.mpr ⟨rfl, hs⟩), h [] List.nil_prefix⟩

/-- What is found is found in a namespace further in than which nothing is. -/
theorem outward_eq_some_iff {α : Type} {found : List (List Char) → Option α} {a : α}
    {scope : List (List Char)} : outward found scope = some a ↔
      ∃ s, s <+: scope ∧ found s = some a ∧
        ∀ t, t <+: scope → s <+: t → t ≠ s → found t = none := by
  induction scope generalizing found with
  | nil => simp [outward]
  | cons x rest ih =>
    rw [outward, Option.or_eq_some_iff, ih, outward_eq_none_iff]
    constructor
    · rintro (⟨s, hs, hfound, hinner⟩ | ⟨hnone, hfound⟩)
      · refine ⟨x :: s, List.cons_prefix_cons.mpr ⟨rfl, hs⟩, hfound, fun t ht hst hne => ?_⟩
        rcases List.prefix_cons_iff.mp ht with rfl | ⟨u, rfl, hu⟩
        · exact absurd (List.prefix_nil.mp hst) (List.cons_ne_nil x s)
        · exact hinner u hu (List.cons_prefix_cons.mp hst).2 fun hsame => hne (congrArg _ hsame)
      · refine ⟨[], List.nil_prefix, hfound, fun t ht _ hne => ?_⟩
        rcases List.prefix_cons_iff.mp ht with rfl | ⟨u, rfl, hu⟩
        · exact absurd rfl hne
        · exact hnone u hu
    · rintro ⟨s, hs, hfound, hinner⟩
      rcases List.prefix_cons_iff.mp hs with rfl | ⟨u, rfl, hu⟩
      · refine Or.inr ⟨fun t ht => ?_, hfound⟩
        exact hinner (x :: t) (List.cons_prefix_cons.mpr ⟨rfl, ht⟩) List.nil_prefix (List.cons_ne_nil x t)
      · refine Or.inl ⟨u, hu, hfound, fun t ht hst hne => ?_⟩
        exact hinner (x :: t) (List.cons_prefix_cons.mpr ⟨rfl, ht⟩)
          (List.cons_prefix_cons.mpr ⟨rfl, hst⟩) fun hsame => hne (List.cons.inj hsame).2

/-- Nothing comes between a declaration and its path from a namespace `base` on, of which `x` is the
first identifier. -/
structure Clear (ds : List Declaration) (accessors scope base : List (List Char)) (x : List Char)
    (d : Declaration) : Prop where
  accessors : x ∉ accessors
  /-- No namespace further in knows the first identifier, be it as a type or as a namespace. -/
  inner : ∀ s, s <+: scope → base <+: s → s ≠ base → ∀ e ∈ ds, ¬ s ++ [x] <+: e.path
  /-- From the base on no other type lies on the way or goes by the same path, and the declaration is
  not a namespace as well. -/
  onward : ∀ e ∈ ds, base ++ [x] <+: e.path → (e.path <+: d.path ∨ d.path <+: e.path) → e = d

/-- A path from one of the namespaces around a class stands for the declaration it leads to from
there if and only if it is clear. -/
theorem lookup_eq_type_iff {accessors scope base : List (List Char)} (hd : d ∈ ds)
    (hpath : d.path = base ++ x :: rest) (hbase : base <+: scope) :
    lookup ds accessors scope (x :: rest) = some (.type d) ↔ Clear ds accessors scope base x d := by
  have hstep : ∀ s, s ++ x :: rest = (s ++ [x]) ++ rest := fun s => by simp
  rw [lookup]
  constructor
  · intro h
    split at h
    next => cases rest <;> cases h
    next haccessors =>
      obtain ⟨e, hfound, hfollow⟩ := Option.bind_eq_some_iff.mp h
      obtain ⟨s, -, hfound, hinner⟩ := outward_eq_some_iff.mp hfound
      have hreached : (entityAt ds (s ++ [x])).bind (follow ds · rest) = some (.type d) :=
        Option.bind_eq_some_iff.mpr ⟨e, hfound, hfollow⟩
      obtain ⟨-, hfrom, honly⟩ := follow_eq_type_iff.mp hreached
      -- the rest of the path is the same, so it was found in the base and nowhere further in
      obtain rfl : base = s := by
        rw [← hstep, hpath] at hfrom
        exact List.append_cancel_right hfrom
      exact ⟨haccessors, fun t ht hst hne => entityAt_eq_none_iff.mp (hinner t ht hst hne), honly⟩
  · intro h
    rw [if_neg h.accessors]
    have hreached : (entityAt ds (base ++ [x])).bind (follow ds · rest) = some (.type d) :=
      follow_eq_type_iff.mpr ⟨hd, hstep base ▸ hpath, h.onward⟩
    obtain ⟨e, hfound, hfollow⟩ := Option.bind_eq_some_iff.mp hreached
    refine Option.bind_eq_some_iff.mpr ⟨e, outward_eq_some_iff.mpr ⟨base, hbase, hfound, ?_⟩, hfollow⟩
    exact fun t ht hst hne => entityAt_eq_none_iff.mpr (h.inner t ht hst hne)

end

end LookupEnums.Source
