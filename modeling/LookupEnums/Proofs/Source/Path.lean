import LookupEnums.Mapping.Field
import LookupEnums.Proofs.Text.Cut
import LookupEnums.TypeEnv.Qualified

/-! # Dotted names as paths

A dotted name is a path of identifiers, its namespaces from the outside in and its short name at the
end. A type is written by its short name alone where its namespaces are also those around the place
it is written at, and by its whole path elsewhere.
-/
namespace LookupEnums
open Text Source

namespace Text

theorem pieces_append_separator (d : Char) (s t : List Char) :
    pieces [d] (s ++ d :: t) = pieces [d] s ++ pieces [d] t := by
  refine pieces_induction (motive := fun s parts => pieces [d] (s ++ d :: t) = parts ++ pieces [d] t) d
    (pieces_cons_self d t) ?_ ?_ s
  · intro s ih
    rw [List.cons_append, pieces_cons_self, ih, List.cons_append]
  · intro c s piece rest hne ih
    exact pieces_cons_of_ne hne ih

theorem pieces_ne_nil (d : Char) (s : List Char) : pieces [d] s ≠ [] := by
  obtain ⟨piece, rest, hs⟩ := exists_pieces_eq_cons d s
  rw [hs]
  exact List.cons_ne_nil piece rest

end Text

namespace Source
variable {name referenced referencing : String}

def path (name : String) : List (List Char) :=
  pieces ['.'] name.toList

/-- The namespaces around a type, from the outside in. -/
def scopeOf (name : String) : List (List Char) :=
  (path name).dropLast

theorem path_injective : Function.Injective path := by
  intro a b h
  refine String.toList_injective ?_
  rw [← joinWith_pieces '.' a.toList, ← joinWith_pieces '.' b.toList]
  exact congrArg (joinWith ['.']) h

theorem path_ne_nil (name : String) : path name ≠ [] :=
  pieces_ne_nil '.' name.toList

/-- The namespace and the short name are the two parts of the path. -/
theorem path_eq (name : String) : path name = scopeOf name ++ [(shortName name).toList] := by
  have hlast : (path name).getLast (path_ne_nil name) = (shortName name).toList := by
    rw [shortName, String.toList_ofList]
    rcases cutLast_cases '.' name.toList with ⟨hnone, hcut⟩ | ⟨front, last, hname, hlast, hcut⟩
    · rw [hcut]
      simp only [path, pieces_of_not_mem hnone, List.getLast_singleton]
    · rw [hcut]
      simp only [path, hname, pieces_append_separator, pieces_of_not_mem hlast,
        List.getLast_concat]
  rw [← hlast]
  exact (List.dropLast_concat_getLast (path_ne_nil name)).symm

theorem scopeOf_eq_path (h : namespaceOf name ≠ "") : scopeOf name = path (namespaceOf name) := by
  have hspace : namespaceOf name = String.ofList (cutLast '.' name.toList).1 := rfl
  rcases cutLast_cases '.' name.toList with ⟨-, hcut⟩ | ⟨front, last, hname, hlast, hcut⟩
  · rw [hcut] at hspace
    exact absurd hspace h
  · rw [hcut] at hspace
    rw [scopeOf, path, path, hspace, String.toList_ofList, hname, pieces_append_separator,
      pieces_of_not_mem hlast, List.dropLast_concat]

/-- Without an empty identifier only a name without a dot has an empty namespace. -/
theorem scopeOf_eq_nil (hdotted : Field.isDottedIdentifier name.toList = true)
    (h : namespaceOf name = "") : scopeOf name = [] := by
  rcases cutLast_cases '.' name.toList with ⟨hnone, -⟩ | ⟨front, last, hname, hlast, hcut⟩
  · rw [scopeOf, path, pieces_of_not_mem hnone]
    rfl
  · rw [namespaceOf, hcut, String.ofList_eq_empty_iff] at h
    obtain rfl : front = [] := h
    rw [Field.isDottedIdentifier, hname, pieces_append_separator, pieces_nil] at hdotted
    cases hdotted

/-- A dotted name is its short name, behind its namespace and a dot if it has a namespace. -/
theorem dotted_eq (hdotted : Field.isDottedIdentifier name.toList = true) : name =
    if namespaceOf name = "" then shortName name else namespaceOf name ++ "." ++ shortName name := by
  rw [← String.toList_inj]
  rcases cutLast_cases '.' name.toList with ⟨-, hcut⟩ | ⟨front, last, hname, -, hcut⟩
  · simp [namespaceOf, shortName, hcut]
  · have hspace : namespaceOf name ≠ "" := by
      intro hspace
      rw [namespaceOf, hcut, String.ofList_eq_empty_iff] at hspace
      obtain rfl : front = [] := hspace
      rw [Field.isDottedIdentifier, hname, List.nil_append, pieces_cons_self] at hdotted
      cases hdotted
    rw [if_neg hspace, hname]
    simp [namespaceOf, shortName, hcut]

theorem namespaceOf_append (name : String) {suffix : String} (h : '.' ∉ suffix.toList) :
    namespaceOf (name ++ suffix) = namespaceOf name := by
  rw [namespaceOf, String.toList_append, cutLast_append _ h]
  rfl

theorem shortName_append (name : String) {suffix : String} (h : '.' ∉ suffix.toList) :
    shortName (name ++ suffix) = shortName name ++ suffix := by
  rw [shortName, String.toList_append, cutLast_append _ h, String.ofList_append, String.ofList_toList]
  rfl

/-- Namespace and short name make a dotted name, also one whose short name is that of another with
something added. -/
theorem eq_append_iff {a b suffix : String} (ha : Field.isDottedIdentifier a.toList = true)
    (hb : Field.isDottedIdentifier b.toList = true) (hsuffix : '.' ∉ suffix.toList) :
    b = a ++ suffix ↔ namespaceOf b = namespaceOf a ∧ shortName b = shortName a ++ suffix := by
  constructor
  · rintro rfl
    exact ⟨namespaceOf_append a hsuffix, shortName_append a hsuffix⟩
  · rintro ⟨hspace, hshort⟩
    have hname := dotted_eq ha
    rw [dotted_eq hb, hspace, hshort]
    by_cases hnone : namespaceOf a = ""
    · rw [if_pos hnone] at hname ⊢
      rw [← hname]
    · rw [if_neg hnone] at hname ⊢
      rw [← String.append_assoc, ← hname]

def Encloses (referenced referencing : String) : Prop :=
  scopeOf referenced <+: scopeOf referencing

instance : Decidable (Encloses referenced referencing) :=
  inferInstanceAs (Decidable (_ <+: _))

/-- A namespace with a dot after it begins a name where its identifiers begin the path. -/
theorem dotted_prefix_iff {space : String} :
    space.toList ++ ['.'] <+: name.toList ↔ path space <+: scopeOf name := by
  constructor
  · rintro ⟨rest, hrest⟩
    have hpath : path name = path space ++ pieces ['.'] rest := by
      rw [path, path, ← hrest, List.append_assoc]
      exact pieces_append_separator '.' space.toList rest
    rw [scopeOf, hpath, List.dropLast_append_of_ne_nil (pieces_ne_nil '.' rest)]
    exact List.prefix_append _ _
  · rintro ⟨inner, hinner⟩
    let rest := inner ++ [(shortName name).toList]
    have hplain : ∀ piece ∈ rest, '.' ∉ piece := by
      intro piece hpiece
      refine not_mem_of_mem_pieces '.' name.toList piece ?_
      change piece ∈ path name
      rw [path_eq, ← hinner, List.append_assoc]
      exact List.mem_append_right _ hpiece
    -- both sides have the same path, and a name is determined by its path
    have hname : name = String.ofList (space.toList ++ '.' :: joinWith ['.'] rest) := by
      refine path_injective ?_
      rw [path_eq, ← hinner, path, path, String.toList_ofList, pieces_append_separator,
        pieces_joinWith (by simp [rest]) hplain, List.append_assoc]
    refine ⟨joinWith ['.'] rest, ?_⟩
    rw [hname, String.toList_ofList, List.append_assoc]
    rfl

/-- How a type is written, as a path. -/
theorem path_qualifyType (h : Field.isDottedIdentifier referenced.toList = true)
    (referencing : String) : path (qualifyType referenced referencing) =
      if Encloses referenced referencing then [(shortName referenced).toList] else path referenced := by
  have hshort : path (shortName referenced) = [(shortName referenced).toList] := by
    refine pieces_of_not_mem (not_mem_of_mem_pieces '.' referenced.toList _ ?_)
    change (shortName referenced).toList ∈ path referenced
    rw [path_eq]
    exact List.mem_append_right _ List.mem_cons_self
  unfold qualifyType
  by_cases hspace : namespaceOf referenced = ""
  · -- without a namespace the short name is the whole name, and either way of writing is the same
    have hscope := scopeOf_eq_nil h hspace
    have hencloses : Encloses referenced referencing := by
      rw [Encloses, hscope]
      exact List.nil_prefix
    have hpath : path referenced = [(shortName referenced).toList] := by
      rw [path_eq, hscope, List.nil_append]
    simp [hspace, hencloses, hpath]
  · have hstarts : (namespaceOf referenced).toList ++ ['.'] <+: referencing.toList ↔
        Encloses referenced referencing := by
      rw [dotted_prefix_iff, ← scopeOf_eq_path hspace, Encloses]
    by_cases hencloses : Encloses referenced referencing
    · rw [if_pos hencloses, if_pos (by simpa [hspace] using hstarts.mpr hencloses), hshort]
    · rw [if_neg hencloses, if_neg (by simpa [hspace] using hstarts.not.mpr hencloses)]

/-- Two types are written alike inside a third where both have the same short name and the
namespaces of both are around it. -/
theorem qualifyType_eq_iff {other : String} (h : Field.isDottedIdentifier referenced.toList = true)
    (hother : Field.isDottedIdentifier other.toList = true) (hne : referenced ≠ other) :
    qualifyType referenced referencing = qualifyType other referencing ↔
      shortName referenced = shortName other ∧ Encloses referenced referencing ∧
        Encloses other referencing := by
  have hnil : ∀ {a b : String}, path a = [(shortName b).toList] → Encloses a referencing := by
    intro a b hpath
    rw [Encloses, scopeOf, hpath]
    exact List.nil_prefix
  rw [← path_injective.eq_iff, path_qualifyType h, path_qualifyType hother]
  by_cases hencloses : Encloses referenced referencing <;>
    by_cases hothers : Encloses other referencing
  · simp [hencloses, hothers, String.toList_inj]
  · rw [if_pos hencloses, if_neg hothers]
    exact ⟨fun hpath => absurd (hnil hpath.symm) hothers, fun hboth => absurd hboth.2.2 hothers⟩
  · rw [if_neg hencloses, if_pos hothers]
    exact ⟨fun hpath => absurd (hnil hpath) hencloses, fun hboth => absurd hboth.2.1 hencloses⟩
  · rw [if_neg hencloses, if_neg hothers, path_injective.eq_iff]
    exact ⟨fun hsame => absurd hsame hne, fun hboth => absurd hboth.2.1 hencloses⟩

end Source

end LookupEnums
