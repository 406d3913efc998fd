import LookupEnums.Proofs.Source.Literal
import LookupEnums.Source.Layout
import Mathlib.Data.List.DropRight

/-! # Lines as they are written

The lines of the source are joined and nothing else happens to them. Where names, literals and cases
hold no end of a line, neither does any line that is laid out from them.
-/
namespace LookupEnums.Source
open Text

variable {allowed : Char → Prop}

theorem unbroken_concat {s t : String} (hs : Unbroken allowed s.toList)
    (ht : Unbroken allowed t.toList) : Unbroken allowed (s ++ t).toList := by
  rw [String.toList_append]
  exact hs.append ht

theorem unbroken_fixed {s : String} (h : ∀ c ∈ s.toList, c ∉ terminators) :
    Unbroken allowed s.toList :=
  Unbroken.of_forall h

theorem unbroken_shortName {name : String} (h : Unbroken allowed name.toList) :
    Unbroken allowed (shortName name).toList := by
  rw [shortName, String.toList_ofList]
  exact h.subset (cutLast_subset _ _).2

theorem unbroken_namespaceOf {name : String} (h : Unbroken allowed name.toList) :
    Unbroken allowed (namespaceOf name).toList := by
  rw [namespaceOf, String.toList_ofList]
  exact h.subset (cutLast_subset _ _).1

theorem unbroken_qualifyType {referenced : String} (h : Unbroken allowed referenced.toList)
    (referencing : String) : Unbroken allowed (qualifyType referenced referencing).toList := by
  unfold qualifyType
  simp only
  split
  · exact unbroken_shortName h
  · exact h

theorem unbroken_qualify {referenced member : String} (h : Unbroken allowed referenced.toList)
    (hmember : Unbroken allowed member.toList) (referencing : String) :
    Unbroken allowed (qualify referenced referencing member).toList := by
  have hdotted := unbroken_concat (unbroken_qualifyType h referencing) (unbroken_fixed (s := ".") (by decide))
  exact unbroken_concat hdotted hmember

theorem unbroken_returnName {returns : TypeNode} (h : Unbroken allowed returns.name.toList)
    (owner : String) : Unbroken allowed (returnName returns owner).toList := by
  unfold returnName
  split
  · exact unbroken_qualifyType h owner
  · exact h

def LinesUnbroken (allowed : Char → Prop) (lines : List Line) : Prop :=
  ∀ l ∈ lines, Unbroken allowed l.text.toList

namespace LinesUnbroken
variable {lines lines' : List Line} {depth : Nat} {text : String}

theorem nil : LinesUnbroken allowed [] := fun _ h => absurd h List.not_mem_nil

theorem cons (h : Unbroken allowed text.toList) (hlines : LinesUnbroken allowed lines) :
    LinesUnbroken allowed (⟨depth, text⟩ :: lines) :=
  List.forall_mem_cons.mpr ⟨h, hlines⟩

theorem blank (hlines : LinesUnbroken allowed lines) : LinesUnbroken allowed (Line.blank :: lines) :=
  cons Unbroken.nil hlines

theorem append (h : LinesUnbroken allowed lines) (h' : LinesUnbroken allowed lines') :
    LinesUnbroken allowed (lines ++ lines') :=
  List.forall_mem_append.mpr ⟨h, h'⟩

theorem braced (h : LinesUnbroken allowed lines) : LinesUnbroken allowed (braced depth lines) :=
  (cons (Unbroken.of_forall (by decide)) h).append (cons (Unbroken.of_forall (by decide)) nil)

theorem spaced {blocks : List (List Line)} (h : ∀ block ∈ blocks, LinesUnbroken allowed block) :
    LinesUnbroken allowed (spaced blocks) := by
  induction blocks with
  | nil => exact nil
  | cons block rest ih =>
    rw [List.forall_mem_cons] at h
    cases rest with
    | nil => exact h.1
    | cons next rest => exact h.1.append (blank (ih h.2))

theorem map {α : Type} {items : List α} {f : α → String}
    (h : ∀ a ∈ items, Unbroken allowed (f a).toList) :
    LinesUnbroken allowed (items.map fun a => ⟨depth, f a⟩) := by
  intro l hl
  obtain ⟨a, ha, rfl⟩ := List.mem_map.mp hl
  exact h a ha

end LinesUnbroken

/-- An enumeration without attributes whose names and literals end no line. -/
structure EnumUnbroken (allowed : Char → Prop) (t : EnumType) : Prop where
  name : Unbroken allowed t.name.toList
  attributes : t.attributes = []
  keyType : Unbroken allowed (t.keyType.getD "").toList
  members : ∀ m ∈ t.members, Unbroken allowed m.name.toList ∧ Unbroken allowed m.literal.toList

structure AccessorUnbroken (allowed : Char → Prop) (a : Accessor) : Prop where
  name : Unbroken allowed a.name.toList
  owner : Unbroken allowed a.owner.name.toList
  returns : Unbroken allowed a.returns.name.toList
  cases : ∀ case ∈ a.cases, Unbroken allowed case.1.toList ∧ Unbroken allowed case.2.toList

theorem unbroken_enumHead {t : EnumType} (h : EnumUnbroken allowed t) :
    Unbroken allowed (enumHead t).toList := by
  have hname : Unbroken allowed ("public enum " ++ shortName t.name).toList :=
    unbroken_concat (unbroken_fixed (by decide)) (unbroken_shortName h.name)
  unfold enumHead
  simp only
  split
  · exact unbroken_concat (unbroken_concat hname (unbroken_fixed (by decide))) h.keyType
  · exact hname

theorem unbroken_memberText (t : EnumType) {m : Member} (hname : Unbroken allowed m.name.toList)
    (hliteral : Unbroken allowed m.literal.toList) : Unbroken allowed (memberText t m).toList := by
  unfold memberText
  split
  · have hvalue : Unbroken allowed (m.name ++ " = " ++ m.literal).toList :=
      unbroken_concat (unbroken_concat hname (unbroken_fixed (by decide))) hliteral
    exact unbroken_concat hvalue (unbroken_fixed (by decide))
  · exact unbroken_concat (unbroken_concat hname (unbroken_fixed (by decide))) hliteral

theorem enumLines_unbroken {t : EnumType} (h : EnumUnbroken allowed t) (depth : Nat) :
    LinesUnbroken allowed (enumLines depth t) := by
  unfold enumLines
  rw [h.attributes]
  refine LinesUnbroken.cons (unbroken_enumHead h) (LinesUnbroken.braced (LinesUnbroken.map ?_))
  exact fun m hm => unbroken_memberText t (h.members m hm).1 (h.members m hm).2

theorem unbroken_caseText {owner : String} (howner : Unbroken allowed owner.toList)
    {case : String × String} (hmember : Unbroken allowed case.1.toList)
    (hexpression : Unbroken allowed case.2.toList) : Unbroken allowed (caseText owner case).toList := by
  have hlabel : Unbroken allowed ("case " ++ shortName owner ++ "." ++ case.1).toList :=
    unbroken_concat (unbroken_concat (unbroken_concat (unbroken_fixed (by decide))
      (unbroken_shortName howner)) (unbroken_fixed (by decide))) hmember
  exact unbroken_concat (unbroken_concat (unbroken_concat hlabel (unbroken_fixed (by decide)))
    hexpression) (unbroken_fixed (by decide))

theorem unbroken_defaultText {owner : String} (howner : Unbroken allowed owner.toList) :
    Unbroken allowed (defaultText owner).toList :=
  unbroken_concat (unbroken_concat (unbroken_fixed (by decide)) (unbroken_shortName howner))
    (unbroken_fixed (by decide))

theorem unbroken_accessorHead {a : Accessor} (h : AccessorUnbroken allowed a) :
    Unbroken allowed (accessorHead a).toList := by
  have htyped : Unbroken allowed
      ("public static " ++ returnName a.returns a.owner.name ++ " " ++ a.name).toList :=
    unbroken_concat (unbroken_concat (unbroken_concat (unbroken_fixed (by decide))
      (unbroken_returnName h.returns a.owner.name)) (unbroken_fixed (by decide))) h.name
  exact unbroken_concat (unbroken_concat (unbroken_concat htyped (unbroken_fixed (by decide)))
    (unbroken_shortName h.owner)) (unbroken_fixed (by decide))

theorem accessorLines_unbroken {a : Accessor} (h : AccessorUnbroken allowed a) (depth : Nat) :
    LinesUnbroken allowed (accessorLines depth a) := by
  refine LinesUnbroken.cons (unbroken_accessorHead h) (LinesUnbroken.braced ?_)
  unfold accessorBody
  split
  · refine LinesUnbroken.cons ?_ LinesUnbroken.nil
    exact unbroken_concat (unbroken_concat (unbroken_fixed (by decide))
      (unbroken_returnName h.returns a.owner.name)) (unbroken_fixed (by decide))
  · refine LinesUnbroken.cons (unbroken_fixed (by decide)) (LinesUnbroken.braced ?_)
    refine LinesUnbroken.append (LinesUnbroken.map fun case hcase => ?_)
      (LinesUnbroken.cons (unbroken_defaultText h.owner) LinesUnbroken.nil)
    exact unbroken_caseText h.owner (h.cases case hcase).1 (h.cases case hcase).2

theorem typeLines_unbroken {env : TypeEnv} {t : EnumType} (h : EnumUnbroken allowed t)
    (haccessors : ∀ a ∈ env.accessorsOf t, AccessorUnbroken allowed a) (depth : Nat) :
    LinesUnbroken allowed (typeLines env depth t) := by
  refine (enumLines_unbroken h depth).append ?_
  unfold extensionLines
  split
  · exact LinesUnbroken.nil
  · refine LinesUnbroken.blank (LinesUnbroken.cons ?_ (LinesUnbroken.braced (LinesUnbroken.spaced ?_)))
    · exact unbroken_concat (unbroken_fixed (by decide))
        (unbroken_concat (unbroken_shortName h.name) (unbroken_fixed (by decide)))
    · intro block hblock
      obtain ⟨a, ha, rfl⟩ := List.mem_map.mp hblock
      exact accessorLines_unbroken (haccessors a ha) (depth + 1)

theorem header_unbroken : LinesUnbroken allowed header := by
  have hplain : ∀ l ∈ header, ∀ c ∈ l.text.toList, c ∉ terminators := by decide
  exact fun l hl => Unbroken.of_forall (hplain l hl)

/-- Lines are broken nowhere but where a name or a literal is. -/
theorem sourceLines_unbroken {env : TypeEnv} (henums : ∀ t ∈ env.enums, EnumUnbroken allowed t)
    (haccessors : ∀ a ∈ env.accessors, AccessorUnbroken allowed a) :
    LinesUnbroken allowed (sourceLines env) := by
  have htypes : ∀ t ∈ env.internalTypes, EnumUnbroken allowed t := by
    intro t ht
    obtain ⟨name, -, hfind⟩ := List.mem_filterMap.mp ht
    exact henums t (List.mem_of_find?_eq_some hfind)
  have hblocks : ∀ depth, ∀ t ∈ env.internalTypes, LinesUnbroken allowed (typeLines env depth t) := by
    intro depth t ht
    refine typeLines_unbroken (htypes t ht) (fun a ha => ?_) depth
    obtain ⟨name, -, hfind⟩ := List.mem_filterMap.mp ha
    exact haccessors a (List.mem_of_find?_eq_some hfind)
  refine header_unbroken.append fun l hl => ?_
  obtain ⟨space, hspace, hl⟩ := List.mem_flatMap.mp hl
  have hspaced : ∀ depth, LinesUnbroken allowed
      (spaced ((typesIn space env.internalTypes).map (typeLines env depth))) := by
    intro depth
    refine LinesUnbroken.spaced fun block hblock => ?_
    obtain ⟨t, ht, rfl⟩ := List.mem_map.mp hblock
    exact hblocks depth t (List.mem_filter.mp ht).1
  have hname : Unbroken allowed space.toList := by
    obtain ⟨t, ht, rfl⟩ := List.mem_map.mp (List.mem_eraseDups.mp hspace)
    exact unbroken_namespaceOf (htypes t ht).name
  suffices hall : LinesUnbroken allowed
      (namespaceLines env space (typesIn space env.internalTypes)) from hall l hl
  unfold namespaceLines
  split
  · exact (hspaced 0).append (LinesUnbroken.blank LinesUnbroken.nil)
  · refine LinesUnbroken.append (LinesUnbroken.cons ?_ (hspaced 1).braced)
      (LinesUnbroken.blank LinesUnbroken.nil)
    exact unbroken_concat (unbroken_fixed (by decide)) hname

theorem intercalate_concat {sep last : List Char} {parts : List (List Char)} (h : parts ≠ []) :
    sep.intercalate (parts ++ [last]) = sep.intercalate parts ++ (sep ++ last) := by
  induction parts with
  | nil => exact absurd rfl h
  | cons part rest ih =>
    cases rest with
    | nil => simp
    | cons next rest =>
      have hrest := ih (List.cons_ne_nil _ _)
      rw [List.cons_append, List.cons_append, List.intercalate_cons_cons, ← List.cons_append, hrest,
        List.intercalate_cons_cons]
      simp only [List.append_assoc]

/-- Of joined lines, the line feeds at the end are those of the empty lines at the end. -/
theorem trimLineFeeds_intercalate {parts : List (List Char)} (h : ∀ part ∈ parts, '\n' ∉ part) :
    trimLineFeeds (['\n'].intercalate parts) = ['\n'].intercalate (parts.rdropWhile (·.isEmpty)) := by
  change (['\n'].intercalate parts).rdropWhile (· = '\n') = _
  -- from the back, where the empty lines are taken away one by one until a line is not empty
  induction parts using List.reverseRecOn with
  | nil => rfl
  | append_singleton parts last ih =>
    rw [List.forall_mem_append] at h
    rcases List.eq_nil_or_concat last with rfl | ⟨front, c, rfl⟩
    · rw [List.rdropWhile_concat_pos _ _ _ rfl, ← ih h.1]
      by_cases hparts : parts = []
      · rw [hparts]
        rfl
      · rw [intercalate_concat hparts]
        exact List.rdropWhile_concat_pos _ _ _ (by decide)
    · rw [List.concat_eq_append] at h ⊢
      have hc : c ≠ '\n' := fun he => h.2 _ List.mem_cons_self (by simp [he])
      rw [List.rdropWhile_concat_neg _ parts _ (by simp)]
      obtain ⟨before, hbefore⟩ : ∃ before,
          ['\n'].intercalate (parts ++ [front ++ [c]]) = before ++ [c] := by
        by_cases hparts : parts = []
        · exact ⟨front, by simp [hparts]⟩
        · refine ⟨['\n'].intercalate parts ++ (['\n'] ++ front), ?_⟩
          rw [intercalate_concat hparts]
          simp only [List.append_assoc]
      rw [hbefore]
      exact List.rdropWhile_concat_neg _ _ _ (by simpa using hc)

/-- The source consists of its lines, up to blank ones at the end, each with a line feed after it. -/
theorem render_eq_lines {env : TypeEnv} (h : ∀ l ∈ sourceLines env, '\n' ∉ l.text.toList)
    (unit : Nat) : ∃ ls rest, sourceLines env = ls ++ rest ∧ (∀ l ∈ rest, l.text = "") ∧
      (render unit env).toList = ['\n'].intercalate (ls.map (·.render unit)) ++ ['\n'] := by
  have hrendered : ∀ part ∈ (sourceLines env).map (·.render unit), '\n' ∉ part := by
    intro part hpart hfeed
    obtain ⟨l, hl, rfl⟩ := List.mem_map.mp hpart
    unfold Line.render at hfeed
    split at hfeed
    · cases hfeed
    · rcases List.mem_append.mp hfeed with hfeed | hfeed
      · exact absurd (List.mem_replicate.mp hfeed).2 (by decide)
      · exact h l hl hfeed
  let blankEnd : Line → Bool := fun l => (l.render unit).isEmpty
  have hdrop : ((sourceLines env).map (·.render unit)).rdropWhile (·.isEmpty) =
      ((sourceLines env).rdropWhile blankEnd).map (·.render unit) := by
    unfold List.rdropWhile
    rw [← List.map_reverse, List.dropWhile_map, List.map_reverse]
    rfl
  refine ⟨(sourceLines env).rdropWhile blankEnd, (sourceLines env).rtakeWhile blankEnd, ?_, ?_, ?_⟩
  · exact List.rdropWhile_append_rtakeWhile.symm
  · intro l hl
    have hblank : blankEnd l = true := List.mem_rtakeWhile_imp hl
    by_contra hne
    have hrender : l.render unit = List.replicate (unit * l.depth) ' ' ++ l.text.toList :=
      if_neg fun hempty => hne (String.isEmpty_iff.mp hempty)
    have hboth := List.append_eq_nil_iff.mp (hrender ▸ List.isEmpty_iff.mp hblank)
    exact hne (String.toList_eq_nil_iff.mp hboth.2)
  · rw [render, String.toList_ofList, trimLineFeeds_intercalate hrendered, hdrop]

end LookupEnums.Source
