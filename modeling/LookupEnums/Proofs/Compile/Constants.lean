import LookupEnums.Proofs.Compile.Coercion
import LookupEnums.Proofs.Compile.History
import LookupEnums.Proofs.Source.Reading

/-! # Constants of enumerations

The members of an enumeration with an integral key have their keys as constants: an integer is its
own, and the default that stands for null is zero. Keys that are told apart as values may so come
down to one constant, but only null and zero do. Nothing compares a key to the width of its type, so
a constant is in the range of the type if its key is.
-/
namespace LookupEnums
open Compile Source

namespace Source

def integralWidths : List (String × Nat × Bool) :=
  [("byte", 8, false), ("sbyte", 8, true), ("short", 16, true), ("ushort", 16, false),
    ("int", 32, true), ("uint", 32, false), ("long", 64, true), ("ulong", 64, false)]

def inRange (type : String) (i : Int) : Bool :=
  match integralWidths.lookup type with
  | some (bits, true) => decide (-2 ^ (bits - 1) ≤ i ∧ i < 2 ^ (bits - 1))
  | some (bits, false) => decide (0 ≤ i ∧ i < 2 ^ bits)
  | none => false

theorem inRange_zero {type : String} (h : isIntegral type = true) : inRange type 0 = true := by
  have hall : ∀ t ∈ integralKinds, inRange t 0 = true := by decide
  exact hall type (by simpa [isIntegral] using h)

/-- The constant of a type that a literal denotes: an integer, or the default of that type. -/
def constantOf? (type : String) (text : String) : Option Int :=
  match read? text.toList with
  | some (.integer i) => some i
  | some (.default other) => if other = type.toList then some 0 else none
  | _ => none

end Source

namespace Value

def constant? : Value → Option Int
  | null => some 0
  | int i => some i
  | _ => none

def Aliases (v w : Value) : Prop :=
  v = null ∧ w = int 0 ∨ v = int 0 ∧ w = null

variable {v w : Value} {i : Int}

theorem constant?_eq_some : v.constant? = some i ↔ v = null ∧ i = 0 ∨ v = int i := by
  cases v <;> simp [constant?, eq_comm]

/-- Distinct keys have one constant only where they alias. -/
theorem constant?_eq_iff (hv : v.constant?.isSome) (hw : w.constant?.isSome)
    (hne : v.sameKey w = false) : v.constant? = w.constant? ↔ v.Aliases w := by
  have hdiffers : v = w → False := by
    rintro rfl
    obtain ⟨i, hi⟩ := Option.isSome_iff_exists.mp hv
    rcases constant?_eq_some.mp hi with ⟨rfl, -⟩ | rfl
    · rw [sameKey_null.mpr rfl] at hne
      cases hne
    · rw [(sameKey_iff_of_numeric rfl).mpr rfl] at hne
      cases hne
  obtain ⟨i, hi⟩ := Option.isSome_iff_exists.mp hv
  obtain ⟨j, hj⟩ := Option.isSome_iff_exists.mp hw
  rw [hi, hj, Option.some.injEq]
  rcases constant?_eq_some.mp hi with ⟨rfl, rfl⟩ | rfl <;>
    rcases constant?_eq_some.mp hj with ⟨rfl, rfl⟩ | rfl
  · exact absurd rfl hdiffers
  · simp [Aliases, eq_comm]
  · simp [Aliases]
  · have hij : i ≠ j := fun h => hdiffers (congrArg int h)
    simp [Aliases, hij]

end Value

namespace Source

theorem constantOf?_literal {v : Value} {i : Int} (h : v.constant? = some i) (type : String) :
    constantOf? type (literal v type) = some i := by
  have htext : (literal v type).toList = literalChars type v := String.toList_ofList
  rw [constantOf?, htext]
  rcases Value.constant?_eq_some.mp h with ⟨rfl, rfl⟩ | rfl
  · rw [read?_literalChars (r := .default type.toList) rfl]
    exact if_pos rfl
  · rw [read?_literalChars (r := .integer i) rfl]

theorem enumHead_eq {t : EnumType} {type : String} (ht : t.keyType = some type)
    (h : isIntegral type = true) : enumHead t =
      "public enum " ++ shortName t.name ++ (if type = "int" then "" else " : " ++ type) := by
  simp only [enumHead, ht, Option.getD_some, h, Bool.true_and, decide_eq_true_eq]
  by_cases hint : type = "int"
  · rw [if_pos hint, if_neg (not_not_intro hint), String.append_empty]
  · rw [if_neg hint, if_pos hint, String.append_assoc]

end Source

namespace EnumType

def value? (t : EnumType) (member : String) : Option Int :=
  t.keyType.bind fun type => (t.constant? member).bind (constantOf? type)

theorem value?_eq {t : EnumType} {type : String} (ht : t.keyType = some type)
    (h : isIntegral type = true) (hnames : t.memberNames.Nodup) {member : Member}
    (hmem : member ∈ t.members) (hliteral : member.literal = literal member.raw type)
    (hkey : member.raw.constant?.isSome) : t.value? member.name = member.raw.constant? := by
  obtain ⟨i, hi⟩ := Option.isSome_iff_exists.mp hkey
  rw [value?, ht, Option.bind_some, constant?_eq (hasConstants_of_isIntegral ht h) hnames hmem,
    Option.bind_some, hliteral, constantOf?_literal hi, hi]

end EnumType

/-- The constants of an enumeration whose keys are integers or null. -/
structure IntegerConstants (env : TypeEnv) (t : EnumType) (type : String) : Prop where
  /-- The type is declared, unless it is the default. -/
  head : enumHead t =
    "public enum " ++ shortName t.name ++ (if type = "int" then "" else " : " ++ type)
  names : t.memberNames.Nodup
  /-- A member is declared with the constant of its key. -/
  declared : ∀ member ∈ t.members,
    memberText t member = member.name ++ " = " ++ member.literal ++ "," ∧
    ∃ i, t.value? member.name = some i ∧ (member.raw = .null ∧ i = 0 ∨ member.raw = .int i)
  /-- No two members have one constant, unless the keys are null and zero. -/
  distinct : ∀ a ∈ t.members, ∀ b ∈ t.members, a.name ≠ b.name →
    (t.value? a.name = t.value? b.name ↔ a.raw.Aliases b.raw)
  /-- A constant is in the range of the type where its key is, and that for null always. -/
  range : ∀ member ∈ t.members, ∀ i, t.value? member.name = some i →
    (inRange type i = true ↔ ∀ key, member.raw = .int key → inRange type key = true)
  /-- The cases of a switch have labels of their own, of which no two denote one constant, unless
  those are the labels of null and zero. -/
  labels : ∀ a ∈ env.accessorsOf t, (a.cases.map (·.1)).Nodup ∧
    ∀ b ∈ a.cases, ∃ m ∈ t.members, m.name = b.1 ∧
      ∀ c ∈ a.cases, b.1 ≠ c.1 → ∃ n ∈ t.members, n.name = c.1 ∧
        (t.value? b.1 = t.value? c.1 ↔ m.raw.Aliases n.raw)

/-- Keys that are told apart have constants, and these are told apart but for null and zero. -/
theorem integerConstants_of_keys {env : TypeEnv} {t : EnumType} {type : String}
    (ht : t.keyType = some type) (hintegral : isIntegral type = true) (hnames : t.memberNames.Nodup)
    (hliteral : ∀ member ∈ t.members, member.literal = literal member.raw type)
    (hkeys : ∀ member ∈ t.members, member.raw = .null ∨ ∃ i, member.raw = .int i)
    (hdistinct : ∀ a ∈ t.members, ∀ b ∈ t.members, a.name ≠ b.name → a.raw.sameKey b.raw = false)
    (hlabels : ∀ a ∈ env.accessorsOf t, (a.cases.map (·.1)).Sublist t.memberNames) :
    IntegerConstants env t type := by
  have hconstants : ∀ member ∈ t.members, member.raw.constant?.isSome := by
    intro member hmem
    rcases hkeys member hmem with h | ⟨i, h⟩ <;> rw [h] <;> rfl
  have hvalue : ∀ member ∈ t.members, t.value? member.name = member.raw.constant? :=
    fun member hmem => EnumType.value?_eq ht hintegral hnames hmem (hliteral member hmem)
      (hconstants member hmem)
  have hdiffers : ∀ a ∈ t.members, ∀ b ∈ t.members, a.name ≠ b.name →
      (t.value? a.name = t.value? b.name ↔ a.raw.Aliases b.raw) := by
    intro a ha b hb hne
    rw [hvalue a ha, hvalue b hb]
    exact Value.constant?_eq_iff (hconstants a ha) (hconstants b hb) (hdistinct a ha b hb hne)
  refine ⟨enumHead_eq ht hintegral, hnames, ?_, hdiffers, ?_, ?_⟩
  · intro member hmem
    obtain ⟨i, hi⟩ := Option.isSome_iff_exists.mp (hconstants member hmem)
    exact ⟨if_pos (hasConstants_of_isIntegral ht hintegral), i, (hvalue member hmem).trans hi,
      Value.constant?_eq_some.mp hi⟩
  · intro member hmem i hi
    rcases Value.constant?_eq_some.mp ((hvalue member hmem).symm.trans hi) with ⟨hnull, rfl⟩ | hint
    · simp [hnull, inRange_zero hintegral]
    · simp [hint]
  · intro a ha
    have hmember : ∀ b ∈ a.cases, ∃ m ∈ t.members, m.name = b.1 := fun b hb =>
      List.mem_map.mp ((hlabels a ha).subset (List.mem_map_of_mem hb))
    refine ⟨hnames.sublist (hlabels a ha), ?_⟩
    intro b hb
    obtain ⟨m, hm, hname⟩ := hmember b hb
    refine ⟨m, hm, hname, ?_⟩
    intro c hc hne
    obtain ⟨n, hn, hname'⟩ := hmember c hc
    refine ⟨n, hn, hname', ?_⟩
    rw [← hname, ← hname'] at hne ⊢
    exact hdiffers m hm n hn hne

namespace Plan
variable {p : Plan} {m : TableMapping} {d : TableData} {c : ColumnMapping} {keyType : StorageType}
  {s : Session}

/-- The labels of a column are the names of rows, in order. -/
theorem labels_directCases : ((p.directCases m d c).map (·.1)).Sublist (d.rows.map Row.memberName) := by
  unfold directCases casesOver
  split
  · exact List.nil_sublist _
  · exact Keyed.sublist_map_filterMap directCase?_fst d.rows

/-- A finished table in a session, and the accessors it has there. -/
theorem Inv.finished_enum (h : p.Inv s) (hw : m.WellFormed) (hm : m ∈ p.mappings)
    (hdone : m.typeName ∈ s.completed) (hdata : m.data = some d)
    (hkey : d.storageType? m.key = some keyType) :
    s.env.enum? m.typeId = some ((p.finalDraft m d).enum m keyType) ∧
      ∀ a ∈ s.env.accessorsOf ((p.finalDraft m d).enum m keyType),
        ∃ c ∈ m.columns, a.cases = p.directCases m d c := by
  refine ⟨(h.enum?_eq hm hdone).trans (directEnum?_eq hdata hkey), ?_⟩
  intro a ha
  obtain ⟨name, -, hfind⟩ := List.mem_filterMap.mp ha
  obtain ⟨c, hc, -, hdirect⟩ := (h.accessor?_eq_some hw hm hdone).mp hfind
  obtain ⟨e, hdata', -, rfl⟩ := directAccessor?_eq_some_iff.mp hdirect
  obtain rfl : d = e := Option.some.inj (hdata.symm.trans hdata')
  exact ⟨c, hc, rfl⟩

/-- The constants of a table that is finished after some calls, where its key is integral and its
keys are integers or null. -/
theorem integerConstants (hw : ∀ m ∈ p.mappings, m.WellFormed) (calls : List Call)
    (hm : m ∈ p.mappings) (hdone : m.typeName ∈ (p.session calls).completed)
    (hdata : m.data = some d) (hkey : d.storageType? m.key = some keyType)
    (hintegral : keyType.isIntegral = true)
    (hkeys : ∀ row ∈ d.rows, row.key = .null ∨ ∃ i, row.key = .int i) :
    ∃ t, (p.session calls).env.enum? m.typeId = some t ∧ t.keyType = some keyType.name ∧
      t.members = d.rows.map (memberOf keyType.name) ∧
      IntegerConstants (p.session calls).env t keyType.name := by
  have hinv := (idle_session hw calls).inv
  have hrows : RowsDistinct d.rows := ((hinv.compilable m hm hdone).fits hdata).rows
  obtain ⟨henum, haccessors⟩ := hinv.finished_enum (hw m hm) hm hdone hdata hkey
  have hnames : ((p.finalDraft m d).enum m keyType).memberNames = d.rows.map Row.memberName :=
    List.map_map
  have hsymm : Std.Symm fun a b : Row => a.key.sameKey b.key = false :=
    ⟨fun a b hab => Value.sameKey_comm a.key b.key ▸ hab⟩
  refine ⟨_, henum, rfl, rfl, integerConstants_of_keys rfl hintegral (hnames ▸ hrows.names) ?_ ?_ ?_ ?_⟩
  · intro member hmem
    obtain ⟨row, -, rfl⟩ := List.mem_map.mp hmem
    rfl
  · intro member hmem
    obtain ⟨row, hrow, rfl⟩ := List.mem_map.mp hmem
    exact hkeys row hrow
  · intro a ha b hb hne
    obtain ⟨row, hrow, rfl⟩ := List.mem_map.mp ha
    obtain ⟨other, hother, rfl⟩ := List.mem_map.mp hb
    exact hrows.keys.forall hrow hother fun h => hne (congrArg Row.memberName h)
  · intro a ha
    obtain ⟨c, -, hcases⟩ := haccessors a ha
    rw [hnames, hcases]
    exact labels_directCases

/-- Shelves numbered in sixteen bits: one of them has no number, and one is numbered too high. -/
def shelfData : TableData where
  table := "shelf"
  columns := [("id", ⟨"short", true⟩), ("note", ⟨"string", false⟩)]
  rows := [⟨.null, .text "Loose", [("note", .text "a")]⟩, ⟨.int 0, .text "Ground", [("note", .text "b")]⟩,
    ⟨.int 40000, .text "Attic", [("note", .text "c")]⟩]

def shelf : TableMapping where
  table := "shelf"
  typeName := "Shelf"
  key := "id"
  label := "name"
  columns := [⟨"shelf", "note", "Note", none, none⟩]
  attributes := []
  data := some shelfData

def shelves : Plan where
  mappings := [shelf]
  distinct := by decide

theorem integerConstants_shelves : ∃ t,
    (shelves.session [.compileAll]).env.enum? ⟨"Shelf", none⟩ = some t ∧
    t.members.map (·.raw) = [.null, .int 0, .int 40000] ∧
    IntegerConstants (shelves.session [.compileAll]).env t "short" := by
  have hm : shelf ∈ shelves.mappings := List.mem_cons_self
  have hdone : shelf.typeName ∈ (shelves.session [.compileAll]).completed := by decide +kernel
  have hkey : shelfData.storageType? shelf.key = some ⟨"short", true⟩ := rfl
  have hkeys : ∀ row ∈ shelfData.rows, row.key = .null ∨ ∃ i, row.key = .int i := by simp [shelfData]
  obtain ⟨t, henum, -, hmembers, hconstants⟩ :=
    integerConstants (by decide) [.compileAll] hm hdone rfl hkey (by decide) hkeys
  exact ⟨t, henum, by rw [hmembers]; rfl, hconstants⟩

/-- The shelf without a number and the one with number zero have one constant, and so have the two
cases for them; the constant of the third is beyond its type. -/
theorem shelves_constants : shelves.compiles = true ∧ ∃ t a,
    (shelves.session [.compileAll]).env.enum? shelf.typeId = some t ∧
    (shelves.session [.compileAll]).env.accessorsOf t = [a] ∧
    t.keyType = some "short" ∧ isIntegral "short" = true ∧
    (∀ member ∈ t.members, member.raw = .null ∨ ∃ i, member.raw = .int i) ∧
    ¬ (t.members.map fun member => t.value? member.name).Nodup ∧
    ¬ (a.cases.map fun case => t.value? case.1).Nodup ∧
    ∃ member ∈ t.members, t.value? member.name = some 40000 ∧ inRange "short" 40000 = false := by
  let env := (shelves.session [.compileAll]).env
  have hmembers : (env.enum? shelf.typeId).map (fun t =>
      (t.keyType, t.members.map fun member => (member.raw.constant?, t.value? member.name))) =
      some (some "short", [(some 0, some 0), (some 0, some 0), (some 40000, some 40000)]) := by
    decide +kernel
  have hcases : (env.enum? shelf.typeId).map (fun t =>
      (env.accessorsOf t).map fun a => a.cases.map fun case => t.value? case.1) =
      some [[some 0, some 0, some 40000]] := by
    decide +kernel
  obtain ⟨t, ht, hparts⟩ := Option.map_eq_some_iff.mp hmembers
  obtain ⟨htype, hpairs⟩ := Prod.mk.inj hparts
  rw [ht, Option.map_some, Option.some.injEq, List.map_eq_singleton_iff] at hcases
  obtain ⟨a, ha, hlabels⟩ := hcases
  have hvalues : t.members.map (fun member => t.value? member.name) = [some 0, some 0, some 40000] := by
    have hsecond := congrArg (List.map Prod.snd) hpairs
    rw [List.map_map] at hsecond
    exact hsecond
  have hhigh : some 40000 ∈ t.members.map fun member => t.value? member.name := by simp [hvalues]
  obtain ⟨high, hmem, hvalue⟩ := List.mem_map.mp hhigh
  refine ⟨by decide +kernel, t, a, ht, ha, htype, by decide, ?_, ?_, ?_, high, hmem, hvalue, by decide⟩
  · intro member hmem
    have hkey : (member.raw.constant?, t.value? member.name) ∈
        [(some 0, some 0), (some 0, some 0), (some 40000, some 40000)] :=
      hpairs ▸ List.mem_map_of_mem hmem
    obtain ⟨i, hi⟩ : ∃ i, member.raw.constant? = some i := by grind
    exact (Value.constant?_eq_some.mp hi).imp And.left fun hint => ⟨i, hint⟩
  · rw [hvalues]
    decide
  · rw [hlabels]
    decide

end Plan

end LookupEnums
