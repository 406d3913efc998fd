import LookupEnums.Proofs.Source.Binding
import LookupEnums.Proofs.Text.Separator
import LookupEnums.Proofs.TypeEnv.Arrival

/-! # Declarations read off the source

From above, the lines of a source open and close namespaces, and those that stand at the depth of
types and begin like a head declare a type. What is so read off the source of an environment are the
enumerations and the classes of their accessors, each in its namespace.
-/
namespace LookupEnums.Source
open Text

def headName? (text : String) : Option String :=
  (text.toList.dropPrefix? "public ".toList).bind fun rest =>
    ((rest.dropPrefix? "enum ".toList).or (rest.dropPrefix? "static class ".toList)).map fun named =>
      String.ofList (named.takeWhile (· ≠ ' '))

def typeDepth (space : String) : Nat :=
  if space.isEmpty then 0 else 1

/-- The type that a line in a namespace declares, by its namespace and its name. -/
def declaredBy (space : String) (l : Line) : Option (String × String) :=
  if l.depth = typeDepth space then (headName? l.text).map fun name => (space, name) else none

/-- The namespace after a line. At the outermost level a brace closes it and a head opens one. -/
def spaceAfter (space : String) (l : Line) : String :=
  if l.depth ≠ 0 then space
  else if l.text = "\x7d" then ""
  else ((l.text.toList.dropPrefix? "namespace ".toList).map String.ofList).getD space

def declaredOn (space : String) : List Line → List (String × String)
  | [] => []
  | l :: rest => (declaredBy space l).toList ++ declaredOn (spaceAfter space l) rest

def Declaration.place : Declaration → String × String
  | enumeration name => (namespaceOf name, shortName name)
  | extensions owner => (namespaceOf owner, shortName owner ++ "Extensions")

def declarationsOf (env : TypeEnv) (t : EnumType) : List Declaration :=
  .enumeration t.name :: if (env.accessorsOf t).isEmpty then [] else [.extensions t.name]

theorem declarations_eq (env : TypeEnv) :
    declarations env = env.internalTypes.flatMap (declarationsOf env) := rfl

section
variable {space text : String} {depth : Nat} {l : Line} {lines lines' : List Line}
  {names names' : List (String × String)}

theorem dropPrefix?_of_head {c : Char} {opening s : List Char} (hopening : opening.head? = some c)
    (h : s.head? ≠ some c) : s.dropPrefix? opening = none := by
  refine Option.eq_none_iff_forall_ne_some.mpr fun rest hrest => h ?_
  obtain ⟨begun, rfl, hbegun⟩ := List.dropPrefix?_eq_some_iff.mp hrest
  obtain rfl := eq_of_beq hbegun
  rw [List.head?_append, hopening]
  rfl

theorem headName?_of_head (h : text.toList.head? ≠ some 'p') : headName? text = none := by
  rw [headName?, dropPrefix?_of_head rfl h]
  rfl

/-- The name in a head ends where the text ends or at a blank. -/
theorem headName?_eq {opening name rest : List Char}
    (hopening : opening = "enum ".toList ∨ opening = "static class ".toList) (hname : ' ' ∉ name)
    (hrest : ∀ c ∈ rest.head?, c = ' ')
    (htext : text.toList = "public ".toList ++ (opening ++ (name ++ rest))) :
    headName? text = some (String.ofList name) := by
  have hnamed : (name ++ rest).takeWhile (· ≠ ' ') = name := by
    cases rest with
    | nil =>
      rw [List.append_nil, List.takeWhile_eq_self_iff]
      exact fun c hc => decide_eq_true fun he => hname (he ▸ hc)
    | cons c rest =>
      obtain rfl : c = ' ' := hrest c rfl
      exact takeWhile_ne hname rest
  have hfound : ((opening ++ (name ++ rest)).dropPrefix? "enum ".toList).or
      ((opening ++ (name ++ rest)).dropPrefix? "static class ".toList) = some (name ++ rest) := by
    rcases hopening with rfl | rfl
    · rw [List.dropPrefix?_append_of_beq _ (beq_self_eq_true _)]
      rfl
    · have hstatic : ("static class ".toList ++ (name ++ rest)).head? ≠ some 'e' := by
        change some 's' ≠ some 'e'
        decide
      rw [dropPrefix?_of_head rfl hstatic, List.dropPrefix?_append_of_beq _ (beq_self_eq_true _)]
      rfl
  rw [headName?, htext, List.dropPrefix?_append_of_beq _ (beq_self_eq_true _), Option.bind_some,
    hfound, Option.map_some, hnamed]

theorem spaceAfter_of_head (h : ∀ c ∈ text.toList.head?, c ≠ 'n' ∧ c ≠ '\x7d') :
    spaceAfter space ⟨depth, text⟩ = space := by
  have hclose : text ≠ "\x7d" := by
    rintro rfl
    exact (h '\x7d' rfl).2 rfl
  have hopen : text.toList.dropPrefix? "namespace ".toList = none :=
    dropPrefix?_of_head rfl fun hn => (h 'n' hn).1 rfl
  simp only [spaceAfter, hclose, hopen]
  split <;> rfl

/-- A line that stays in its namespace and declares nothing. -/
structure Quiet (space : String) (l : Line) : Prop where
  stays : spaceAfter space l = space
  silent : declaredBy space l = none

theorem quiet_deeper (h : typeDepth space < l.depth) : Quiet space l :=
  ⟨if_pos (Nat.ne_of_gt (Nat.zero_lt_of_lt h)), if_neg (Nat.ne_of_gt h)⟩

theorem quiet_of_head (h : ∀ c ∈ text.toList.head?, c ≠ 'n' ∧ c ≠ '\x7d' ∧ c ≠ 'p') :
    Quiet space ⟨depth, text⟩ := by
  refine ⟨spaceAfter_of_head fun c hc => ⟨(h c hc).1, (h c hc).2.1⟩, ?_⟩
  rw [declaredBy, headName?_of_head fun hp => (h 'p' hp).2.2 rfl, Option.map_none, ite_self]

theorem quiet_blank : Quiet space Line.blank :=
  quiet_of_head fun _ hc => nomatch hc

/-- A brace at the depth of types closes a type and not its namespace. -/
theorem quiet_close : Quiet space ⟨typeDepth space, "\x7d"⟩ := by
  refine ⟨?_, ?_⟩
  · unfold spaceAfter typeDepth
    by_cases hspace : space.isEmpty
    · rw [if_pos hspace, String.isEmpty_iff.mp hspace]
      rfl
    · rw [if_neg hspace]
      rfl
  · have hnone : headName? "\x7d" = none := headName?_of_head (by decide)
    rw [declaredBy, if_pos rfl, hnone]
    rfl

theorem quiet_braced (h : ∀ l ∈ lines, Quiet space l) :
    ∀ l ∈ braced (typeDepth space) lines, Quiet space l := by
  have hopen : Quiet space ⟨typeDepth space, "\x7b"⟩ :=
    quiet_of_head fun c hc => by obtain rfl := Option.some.inj hc; decide
  unfold braced
  rw [List.forall_mem_append, List.forall_mem_cons, List.forall_mem_singleton]
  exact ⟨⟨hopen, h⟩, quiet_close⟩

theorem quiet_attribute (given : String) : Quiet space ⟨depth, attributeText given⟩ := by
  have hhead : (attributeText given).toList.head? = some '[' := by
    unfold attributeText
    split
    next h => exact h
    next =>
      rw [String.toList_append, String.toList_append]
      rfl
  refine quiet_of_head fun c hc => ?_
  obtain rfl := Option.some.inj (hhead.symm.trans hc)
  decide

theorem quiet_spaced {blocks : List (List Line)} (h : ∀ block ∈ blocks, ∀ l ∈ block, Quiet space l) :
    ∀ l ∈ spaced blocks, Quiet space l := by
  induction blocks with
  | nil => exact fun l hl => nomatch hl
  | cons block rest ih =>
    rw [List.forall_mem_cons] at h
    cases rest with
    | nil => exact h.1
    | cons next rest =>
      exact List.forall_mem_append.mpr ⟨h.1, List.forall_mem_cons.mpr ⟨quiet_blank, ih h.2⟩⟩

theorem le_depth_braced (h : ∀ l ∈ lines, depth ≤ l.depth) : ∀ l ∈ braced depth lines, depth ≤ l.depth := by
  unfold braced
  rw [List.forall_mem_append, List.forall_mem_cons, List.forall_mem_singleton]
  exact ⟨⟨Nat.le_refl depth, h⟩, Nat.le_refl depth⟩

/-- No line of an accessor stands further out than its head. -/
theorem le_depth_accessorLines (depth : Nat) (a : Accessor) :
    ∀ l ∈ accessorLines depth a, depth ≤ l.depth := by
  have hswitch : ∀ l ∈ braced (depth + 1) (a.cases.map (fun c => ⟨depth + 2, caseText a.owner.name c⟩)
      ++ [⟨depth + 2, defaultText a.owner.name⟩]), depth + 1 ≤ l.depth := by
    refine le_depth_braced (List.forall_mem_append.mpr ⟨?_, ?_⟩)
    · intro l hl
      obtain ⟨c, -, rfl⟩ := List.mem_map.mp hl
      exact Nat.le_succ (depth + 1)
    · rw [List.forall_mem_singleton]
      exact Nat.le_succ (depth + 1)
  have hbody : ∀ l ∈ accessorBody (depth + 1) a, depth ≤ l.depth := by
    unfold accessorBody
    split
    · rw [List.forall_mem_singleton]
      exact Nat.le_succ depth
    · rw [List.forall_mem_cons]
      exact ⟨Nat.le_succ depth, fun l hl => Nat.le_of_succ_le (hswitch l hl)⟩
  exact List.forall_mem_cons.mpr ⟨Nat.le_refl depth, le_depth_braced hbody⟩

/-- What lines declare that begin and end in one namespace, whatever follows them. -/
def Declares (space : String) (lines : List Line) (names : List (String × String)) : Prop :=
  ∀ rest, declaredOn space (lines ++ rest) = names ++ declaredOn space rest

namespace Declares

theorem append (h : Declares space lines names) (h' : Declares space lines' names') :
    Declares space (lines ++ lines') (names ++ names') := by
  intro rest
  rw [List.append_assoc, h, h', List.append_assoc]

theorem quiet (h : ∀ l ∈ lines, Quiet space l) : Declares space lines [] := by
  intro rest
  induction lines with
  | nil => rfl
  | cons l lines ih =>
    rw [List.forall_mem_cons] at h
    rw [List.cons_append, declaredOn, h.1.silent, h.1.stays, ih h.2]
    rfl

theorem head {name : String} (hname : headName? text = some name) (hp : text.toList.head? = some 'p') :
    Declares space [⟨typeDepth space, text⟩] [(space, name)] := by
  intro rest
  have hstays : spaceAfter space ⟨typeDepth space, text⟩ = space := by
    refine spaceAfter_of_head fun c hc => ?_
    obtain rfl := Option.some.inj (hp.symm.trans hc)
    decide
  rw [List.singleton_append, declaredOn, hstays, declaredBy, if_pos rfl, hname]
  rfl

theorem spaced {α : Type} {items : List α} {written : α → List Line}
    {declared : α → List (String × String)} (h : ∀ a ∈ items, Declares space (written a) (declared a)) :
    Declares space (spaced (items.map written)) (items.flatMap declared) := by
  induction items with
  | nil => exact quiet fun l hl => nomatch hl
  | cons a rest ih =>
    rw [List.forall_mem_cons] at h
    cases rest with
    | nil =>
      rw [List.flatMap_singleton]
      exact h.1
    | cons next rest =>
      have hblank : Declares space [Line.blank] [] := quiet (List.forall_mem_singleton.mpr quiet_blank)
      exact h.1.append (hblank.append (ih h.2))

end Declares

variable {env : TypeEnv} {t : EnumType}

theorem exists_enumHead_eq (t : EnumType) : ∃ rest : List Char, (∀ c ∈ rest.head?, c = ' ') ∧
    (enumHead t).toList = "public ".toList ++ ("enum ".toList ++ ((shortName t.name).toList ++ rest)) := by
  have hpublic : "public enum ".toList = "public ".toList ++ "enum ".toList := rfl
  unfold enumHead
  simp only
  split
  · refine ⟨(" : " ++ t.keyType.getD "").toList, ?_, ?_⟩
    · intro c hc
      rw [String.toList_append] at hc
      exact (Option.some.inj hc).symm
    · rw [String.toList_append, String.toList_append, String.toList_append, String.toList_append, hpublic]
      simp only [List.append_assoc]
  · refine ⟨[], fun c hc => (nomatch hc), ?_⟩
    rw [String.toList_append, hpublic, List.append_nil, List.append_assoc]

theorem declares_enumLines (hname : ' ' ∉ (shortName t.name).toList) :
    Declares space (enumLines (typeDepth space) t) [(space, shortName t.name)] := by
  have hattributes : ∀ l ∈ t.attributes.map (fun a => (⟨typeDepth space, attributeText a⟩ : Line)),
      Quiet space l := by
    intro l hl
    obtain ⟨given, -, rfl⟩ := List.mem_map.mp hl
    exact quiet_attribute given
  have hmembers : ∀ l ∈ t.members.map (fun m => (⟨typeDepth space + 1, memberText t m⟩ : Line)),
      Quiet space l := by
    intro l hl
    obtain ⟨m, -, rfl⟩ := List.mem_map.mp hl
    exact quiet_deeper (Nat.lt_succ_self _)
  obtain ⟨rest, hrest, htext⟩ := exists_enumHead_eq t
  have hhead : Declares space [⟨typeDepth space, enumHead t⟩] [(space, shortName t.name)] := by
    refine Declares.head ?_ (by rw [htext]; rfl)
    rw [headName?_eq (Or.inl rfl) hname hrest htext, String.ofList_toList]
  exact (Declares.quiet hattributes).append (hhead.append (Declares.quiet (quiet_braced hmembers)))

/-- There is a class where there are accessors. -/
theorem declares_extensionLines (hname : ' ' ∉ (shortName t.name).toList) (accessors : List Accessor) :
    Declares space (extensionLines (typeDepth space) t accessors)
      (if accessors.isEmpty then [] else [(space, extensionName t)]) := by
  cases accessors with
  | nil => exact Declares.quiet fun l hl => nomatch hl
  | cons a rest =>
    have hbodies : ∀ l ∈ spaced ((a :: rest).map (accessorLines (typeDepth space + 1))), Quiet space l := by
      refine quiet_spaced fun block hblock l hl => ?_
      obtain ⟨b, -, rfl⟩ := List.mem_map.mp hblock
      exact quiet_deeper (le_depth_accessorLines _ b l hl)
    have hplain : ' ' ∉ (extensionName t).toList := by
      rw [extensionName, String.toList_append, List.mem_append]
      exact not_or.mpr ⟨hname, by decide⟩
    have hpublic : "public static class ".toList = "public ".toList ++ "static class ".toList := rfl
    have htext : ("public static class " ++ extensionName t).toList =
        "public ".toList ++ ("static class ".toList ++ ((extensionName t).toList ++ [])) := by
      rw [String.toList_append, hpublic, List.append_nil, List.append_assoc]
    have hend : ∀ c ∈ ([] : List Char).head?, c = ' ' := fun _ hc => nomatch hc
    have hhead : Declares space [⟨typeDepth space, "public static class " ++ extensionName t⟩]
        [(space, extensionName t)] := by
      refine Declares.head ?_ (by rw [htext]; rfl)
      rw [headName?_eq (Or.inr rfl) hplain hend htext, String.ofList_toList]
    have hblank : Declares space [Line.blank] [] := Declares.quiet (List.forall_mem_singleton.mpr quiet_blank)
    exact hblank.append (hhead.append (Declares.quiet (quiet_braced hbodies)))

theorem declares_typeLines (hspace : namespaceOf t.name = space)
    (hname : ' ' ∉ (shortName t.name).toList) :
    Declares space (typeLines env (typeDepth space) t) ((declarationsOf env t).map Declaration.place) := by
  have hplaces : (declarationsOf env t).map Declaration.place =
      [(space, shortName t.name)] ++ if (env.accessorsOf t).isEmpty then [] else [(space, extensionName t)] := by
    rw [← hspace, declarationsOf, List.map_cons]
    cases (env.accessorsOf t).isEmpty <;> rfl
  rw [hplaces]
  exact (declares_enumLines hname).append (declares_extensionLines hname _)

/-- A namespace is closed again behind its types. -/
theorem declares_spaceLines {blocks : List (List Line)} (h : Declares space (spaced blocks) names) :
    Declares "" (spaceLines space blocks) names := by
  have hblank : Declares "" [Line.blank] [] := Declares.quiet (List.forall_mem_singleton.mpr quiet_blank)
  unfold spaceLines
  by_cases hspace : space.isEmpty
  · obtain rfl := String.isEmpty_iff.mp hspace
    rw [if_pos hspace, ← List.append_nil names]
    exact h.append hblank
  · have hopens : (("namespace " ++ space).toList.head?) = some 'n' := by
      rw [String.toList_append]
      rfl
    have hopen : spaceAfter "" ⟨0, "namespace " ++ space⟩ = space := by
      have hclose : "namespace " ++ space ≠ "\x7d" := by
        intro h
        rw [h] at hopens
        cases hopens
      have hname : ("namespace " ++ space).toList.dropPrefix? "namespace ".toList = some space.toList := by
        rw [String.toList_append, List.dropPrefix?_append_of_beq _ (beq_self_eq_true _)]
      simp only [spaceAfter, hclose, hname, ne_eq, not_true_eq_false, if_false, Option.map_some,
        Option.getD_some, String.ofList_toList]
    have hsilent : ∀ depth, declaredBy "" ⟨depth, "namespace " ++ space⟩ = none := by
      intro depth
      rw [declaredBy, headName?_of_head (by rw [hopens]; decide), Option.map_none, ite_self]
    have hbrace : Quiet space ⟨0, "\x7b"⟩ :=
      quiet_of_head fun c hc => by obtain rfl := Option.some.inj hc; decide
    have hclosing : declaredBy space ⟨0, "\x7d"⟩ = none := by
      have hnone : headName? "\x7d" = none := headName?_of_head (by decide)
      rw [declaredBy, hnone, Option.map_none, ite_self]
    intro rest
    rw [if_neg hspace]
    -- line by line: the head, the brace, the types, the other brace, a blank line
    have hlines : ⟨0, "namespace " ++ space⟩ :: braced 0 (spaced blocks) ++ [Line.blank] ++ rest =
        ⟨0, "namespace " ++ space⟩ :: ([⟨0, "\x7b"⟩] ++ (spaced blocks ++
          (⟨0, "\x7d"⟩ :: ([Line.blank] ++ rest)))) := by
      simp [braced]
    rw [hlines, declaredOn, hsilent, hopen, Declares.quiet (List.forall_mem_singleton.mpr hbrace), h,
      declaredOn, hclosing]
    exact congrArg (names ++ ·) (hblank rest)

theorem declares_namespaces {spaces : List String} {blocks : String → List (List Line)}
    {declared : String → List (String × String)}
    (h : ∀ space ∈ spaces, Declares space (spaced (blocks space)) (declared space)) :
    Declares "" (spaces.flatMap fun space => spaceLines space (blocks space)) (spaces.flatMap declared) := by
  induction spaces with
  | nil => exact Declares.quiet fun l hl => nomatch hl
  | cons space rest ih =>
    rw [List.forall_mem_cons] at h
    rw [List.flatMap_cons, List.flatMap_cons]
    exact (declares_spaceLines h.1).append (ih h.2)

end

/-- What is read off a source is what its types declare, namespace by namespace. -/
theorem declaredOn_sourceLines {env : TypeEnv}
    (hnames : ∀ t ∈ env.internalTypes, ' ' ∉ (shortName t.name).toList) :
    declaredOn "" (sourceLines env) = (namespaces env.internalTypes).flatMap fun space =>
      (typesIn space env.internalTypes).flatMap fun t => (declarationsOf env t).map Declaration.place := by
  have hheader : ∀ l ∈ header, Quiet "" l := by
    have hall : ∀ l ∈ header, spaceAfter "" l = "" ∧ declaredBy "" l = none := by decide +kernel
    exact fun l hl => ⟨(hall l hl).1, (hall l hl).2⟩
  let types := env.internalTypes
  have htypes : ∀ space ∈ namespaces types, Declares space
      (spaced ((typesIn space types).map (typeLines env (typeDepth space))))
      ((typesIn space types).flatMap fun t => (declarationsOf env t).map Declaration.place) := by
    refine fun space _ => Declares.spaced fun t ht => ?_
    obtain ⟨hmem, hspace⟩ := List.mem_filter.mp ht
    exact declares_typeLines (of_decide_eq_true hspace) (hnames t hmem)
  have hlines : sourceLines env = header ++ (((namespaces types).flatMap fun space =>
      spaceLines space ((typesIn space types).map (typeLines env (typeDepth space)))) ++ []) := by
    simp only [sourceLines, namespaceLines_eq, List.append_nil]
    rfl
  rw [hlines, Declares.quiet hheader, declares_namespaces htypes, declaredOn, List.append_nil,
    List.nil_append]

end LookupEnums.Source
