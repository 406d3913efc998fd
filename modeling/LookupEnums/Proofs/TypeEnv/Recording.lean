import LookupEnums.Proofs.TypeEnv.Lookup
import LookupEnums.Proofs.Value.Number

/-! # Recording members one after the other

Calls that record members, the refused ones among them. Whatever the calls are, the members are those
of the calls that succeeded, with distinct names and distinct keys, and a key is looked up as if the
members and their keys were kept in two tables.
-/
namespace LookupEnums

/-- A call that is to record a member. -/
structure Attempt where
  member : Member
  label : Value

/-- Members by their names, and the names of members by their keys. -/
structure MemberTables where
  members : List (String × Member) := []
  keys : List ((Value × String) × String) := []

namespace MemberTables

def holder? (s : MemberTables) (raw : Value) (keyType : String) : Option String :=
  (s.keys.find? fun e => e.1.1.sameKey raw && e.1.2 = keyType).map (·.2)

def add (typeName : String) (a : Attempt) : EStateM CompileError MemberTables Unit := do
  let m := a.member
  let s ← get
  if (s.members.lookup m.name).isSome then
    throw (.duplicateMember typeName m.name (if a.label.isNull then m.raw else a.label))
  if !m.raw.usableAsKey then throw (.unusableKey m.raw.keyFault)
  match s.holder? m.raw m.keyType with
  | some holder => throw (.duplicateKey typeName m.raw holder)
  | none =>
    modify fun s => { s with members := s.members ++ [(m.name, m)] }
    modify fun s => { s with keys := s.keys ++ [((m.raw, m.keyType), m.name)] }

/-- The tables after a call, also after one that fails. -/
def after (typeName : String) (s : MemberTables) (a : Attempt) : MemberTables :=
  match (add typeName a).run s with
  | .ok _ s => s
  | .error _ s => s

def find (s : MemberTables) (typeName : String) (raw : Value) (keyType : String)
    (referencedBy : Option String) : Except CompileError Member :=
  if !raw.usableAsKey then .error (.unusableKey raw.keyFault)
  else match s.holder? raw keyType with
    | none => .error (.unresolvedKey typeName raw referencedBy)
    | some name =>
      match s.members.lookup name with
      | some m => .ok m
      | none => .error (.missingCell name)

end MemberTables

namespace EnumType
variable {t u : EnumType} {a : Attempt} {calls : List Attempt}

def tables (t : EnumType) : MemberTables where
  members := t.members.map fun m => (m.name, m)
  keys := t.members.map fun m => ((m.raw, m.keyType), m.name)

def attempt (t : EnumType) (a : Attempt) : EnumType :=
  match t.addMember a.member a.label with
  | .ok u => u
  | .error _ => t

def attempts (t : EnumType) (calls : List Attempt) : EnumType :=
  calls.foldl attempt t

def accepted (t : EnumType) : List Attempt → List Attempt
  | [] => []
  | a :: rest =>
    match t.addMember a.member a.label with
    | .ok u => a :: u.accepted rest
    | .error _ => t.accepted rest

section steps

theorem attempt_of_ok (h : t.addMember a.member a.label = .ok u) : t.attempt a = u := by
  rw [attempt, h]

theorem attempt_of_error {e : CompileError} (h : t.addMember a.member a.label = .error e) :
    t.attempt a = t := by
  rw [attempt, h]

theorem accepted_of_ok (h : t.addMember a.member a.label = .ok u) :
    t.accepted (a :: calls) = a :: u.accepted calls := by
  rw [accepted, h]

theorem accepted_of_error {e : CompileError} (h : t.addMember a.member a.label = .error e) :
    t.accepted (a :: calls) = t.accepted calls := by
  rw [accepted, h]

theorem attempts_cons : t.attempts (a :: calls) = (t.attempt a).attempts calls := rfl

end steps

/-- Which of the four endings a call has: the name is looked at first, then whether the key can be
one, and then the other keys. -/
inductive Outcome (t : EnumType) (a : Attempt) : Except CompileError EnumType → Prop
  | nameTaken (name : a.member.name ∈ t.memberNames) :
      Outcome t a (.error (.duplicateMember t.name a.member.name
        (if a.label.isNull then a.member.raw else a.label)))
  | unusable (name : a.member.name ∉ t.memberNames) (key : a.member.raw.usableAsKey = false) :
      Outcome t a (.error (.unusableKey a.member.raw.keyFault))
  | keyTaken {holder : Member} (name : a.member.name ∉ t.memberNames)
      (key : a.member.raw.usableAsKey = true) (mem : holder ∈ t.members)
      (same : holder.hasKey a.member.raw a.member.keyType = true) :
      Outcome t a (.error (.duplicateKey t.name a.member.raw holder.name))
  | recorded (name : a.member.name ∉ t.memberNames) (key : a.member.raw.usableAsKey = true)
      (free : ∀ m ∈ t.members, m.hasKey a.member.raw a.member.keyType = false) :
      Outcome t a (.ok { t with members := t.members ++ [a.member] })

theorem outcome_addMember (t : EnumType) (a : Attempt) :
    Outcome t a (t.addMember a.member a.label) := by
  by_cases hname : a.member.name ∈ t.memberNames
  · have htaken : t.memberNames.contains a.member.name = true := by simpa using hname
    rw [addMember, if_pos htaken]
    exact .nameTaken hname
  · have hfree : ¬ t.memberNames.contains a.member.name = true := by simpa using hname
    rw [addMember, if_neg hfree]
    cases husable : a.member.raw.usableAsKey with
    | false => exact .unusable hname husable
    | true =>
      cases hkey : t.memberWithKey? a.member.raw a.member.keyType with
      | some holder =>
        have hsame : holder.hasKey a.member.raw a.member.keyType = true := by
          simpa using List.find?_some hkey
        exact .keyTaken hname husable (List.mem_of_find?_eq_some hkey) hsame
      | none =>
        refine .recorded hname husable fun m hm => ?_
        simpa using List.find?_eq_none.mp hkey m hm

structure Recorded (t : EnumType) : Prop where
  names : t.memberNames.Nodup
  usable : ∀ m ∈ t.members, m.raw.usableAsKey = true
  keys : t.members.Pairwise fun m n => m.hasKey n.raw n.keyType = false

theorem recorded_of_nil (h : t.members = []) : t.Recorded := by
  refine ⟨?_, ?_, ?_⟩
  · simp [memberNames, h]
  · simp [h]
  · simp [h]

theorem Recorded.addMember (h : t.Recorded) (hadd : t.addMember a.member a.label = .ok u) :
    u.Recorded := by
  have houtcome := outcome_addMember t a
  rw [hadd] at houtcome
  cases houtcome with
  | recorded name key free =>
    refine ⟨?_, ?_, ?_⟩
    · have hnames : (t.memberNames ++ [a.member.name]).Nodup :=
        List.nodup_append.mpr ⟨h.names, by simp, fun n hn k hk hsame => by
          rw [List.mem_singleton] at hk
          exact name (hk ▸ hsame ▸ hn)⟩
      simpa [memberNames] using hnames
    · intro m hm
      rcases List.mem_append.mp hm with hm | hm
      · exact h.usable m hm
      · rwa [List.mem_singleton.mp hm]
    · refine List.pairwise_append.mpr ⟨h.keys, by simp, fun m hm n hn => ?_⟩
      rw [List.mem_singleton.mp hn]
      exact free m hm

theorem Recorded.attempt (h : t.Recorded) (a : Attempt) : (t.attempt a).Recorded := by
  unfold EnumType.attempt
  cases hadd : t.addMember a.member a.label with
  | ok u => exact h.addMember hadd
  | error e => exact h

theorem Recorded.attempts (h : t.Recorded) (calls : List Attempt) : (t.attempts calls).Recorded := by
  induction calls generalizing t with
  | nil => exact h
  | cons a rest ih => exact ih (h.attempt a)

/-- A type gains a member for each call that succeeds, and else stays as it was. -/
theorem attempts_eq (t : EnumType) (calls : List Attempt) :
    t.attempts calls = { t with members := t.members ++ (t.accepted calls).map (·.member) } := by
  induction calls generalizing t with
  | nil => simp [attempts, accepted]
  | cons a rest ih =>
    have houtcome := outcome_addMember t a
    rw [attempts_cons, ih]
    cases hadd : t.addMember a.member a.label with
    | error e => rw [attempt_of_error hadd, accepted_of_error hadd]
    | ok u =>
      rw [attempt_of_ok hadd, accepted_of_ok hadd]
      rw [hadd] at houtcome
      cases houtcome
      simp

theorem name_attempts (t : EnumType) (calls : List Attempt) : (t.attempts calls).name = t.name := by
  rw [attempts_eq]
  rfl

section tables

theorem lookup_tables (t : EnumType) (name : String) :
    t.tables.members.lookup name = t.members.find? (·.name = name) := by
  unfold tables
  induction t.members with
  | nil => rfl
  | cons m rest ih =>
    rw [List.map_cons, List.lookup_cons, List.find?_cons, ih]
    by_cases hname : name = m.name
    · simp [hname]
    · have hother : ¬ m.name = name := fun h => hname h.symm
      simp [beq_false_of_ne hname, hother]

theorem holder?_tables (t : EnumType) (raw : Value) (keyType : String) :
    t.tables.holder? raw keyType = (t.memberWithKey? raw keyType).map (·.name) := by
  unfold tables MemberTables.holder? memberWithKey?
  rw [List.find?_map, Option.map_map]
  rfl

/-- Recording in two tables keeps them in step, and a call that fails leaves both as they were. -/
theorem add_tables (t : EnumType) (a : Attempt) :
    (MemberTables.add t.name a).run t.tables =
      match t.addMember a.member a.label with
      | .ok u => .ok () u.tables
      | .error e => .error e t.tables := by
  have hname : (t.tables.members.lookup a.member.name).isSome = t.memberNames.contains a.member.name := by
    rw [lookup_tables, Bool.eq_iff_iff, List.find?_isSome]
    simp [memberNames]
  unfold MemberTables.add addMember
  rw [EStateM.run_bind, EStateM.run_get]
  simp only [hname, holder?_tables]
  by_cases htaken : t.memberNames.contains a.member.name = true
  · rw [if_pos htaken, if_pos htaken]
    rfl
  · rw [if_neg htaken, if_neg htaken]
    cases husable : a.member.raw.usableAsKey with
    | false => rfl
    | true =>
      cases hkey : t.memberWithKey? a.member.raw a.member.keyType with
      | some holder => rfl
      | none =>
        have htables : ({ t with members := t.members ++ [a.member] } : EnumType).tables =
            ⟨t.tables.members ++ [(a.member.name, a.member)],
              t.tables.keys ++ [((a.member.raw, a.member.keyType), a.member.name)]⟩ := by
          simp [tables]
        exact congrArg (EStateM.Result.ok ()) htables.symm

theorem after_tables (t : EnumType) (a : Attempt) :
    MemberTables.after t.name t.tables a = (t.attempt a).tables := by
  rw [MemberTables.after, add_tables, attempt]
  cases t.addMember a.member a.label <;> rfl

theorem foldl_after_tables (t : EnumType) (calls : List Attempt) :
    calls.foldl (MemberTables.after t.name) t.tables = (t.attempts calls).tables := by
  induction calls generalizing t with
  | nil => rfl
  | cons a rest ih =>
    have hname : (t.attempt a).name = t.name := name_attempts t [a]
    rw [List.foldl_cons, after_tables, attempts_cons, ← ih, hname]

/-- The name held for a key is always that of a member. -/
theorem find_tables (h : t.Recorded) (raw : Value) (keyType : String) (referencedBy : Option String) :
    t.tables.find t.name raw keyType referencedBy = t.memberFor raw keyType referencedBy := by
  unfold MemberTables.find memberFor
  rw [holder?_tables]
  cases hkey : t.memberWithKey? raw keyType with
  | none => rfl
  | some m =>
    have hm : m ∈ t.members := List.mem_of_find?_eq_some hkey
    have hlookup : t.tables.members.lookup m.name = some m := by
      rw [lookup_tables]
      exact Keyed.find?_key h.names hm
    simp only [Option.map_some, hlookup]

end tables

theorem hasKey_iff {m : Member} {raw : Value} {keyType : String} :
    m.hasKey raw keyType = true ↔ m.raw.sameKey raw = true ∧ m.keyType = keyType := by
  simp [Member.hasKey]

/-- Members with the key that is looked for have each other's key. -/
theorem hasKey_of_hasKey {m n : Member} {raw : Value} {keyType : String}
    (hm : m.hasKey raw keyType = true) (hn : n.hasKey raw keyType = true) :
    m.hasKey n.raw n.keyType = true := by
  obtain ⟨hm, hmtype⟩ := hasKey_iff.mp hm
  obtain ⟨hn, hntype⟩ := hasKey_iff.mp hn
  rw [Value.sameKey_comm] at hn
  exact hasKey_iff.mpr ⟨Value.sameKey_trans hm hn, hmtype.trans hntype.symm⟩

/-- A key that can be one is looked up in the calls that succeeded. -/
theorem memberFor_attempts (ht : t.members = []) (calls : List Attempt) {raw : Value}
    (husable : raw.usableAsKey = true) (keyType : String) (referencedBy : Option String) :
    (∃ a, (t.accepted calls).filter (·.member.hasKey raw keyType) = [a] ∧
      (t.attempts calls).memberFor raw keyType referencedBy = .ok a.member) ∨
    ((∀ a ∈ t.accepted calls, a.member.hasKey raw keyType = false) ∧
      (t.attempts calls).memberFor raw keyType referencedBy =
        .error (.unresolvedKey t.name raw referencedBy)) := by
  have hrecorded := (recorded_of_nil ht).attempts calls
  have hmembers : (t.attempts calls).members = (t.accepted calls).map (·.member) := by
    rw [attempts_eq, ht, List.nil_append]
  have hkeys := hrecorded.keys
  simp only [hmembers, List.pairwise_map, ← Bool.not_eq_true] at hkeys
  rcases (t.attempts calls).memberFor_cases raw keyType referencedBy with
    ⟨hnot, -⟩ | ⟨hnone, hfor⟩ | ⟨m, -, hsome, hfor⟩
  · rw [husable] at hnot
    cases hnot
  · rw [name_attempts] at hfor
    refine .inr ⟨fun a ha => ?_, hfor⟩
    have hmem : a.member ∈ (t.attempts calls).members := by
      rw [hmembers]
      exact List.mem_map_of_mem ha
    simpa using List.find?_eq_none.mp hnone a.member hmem
  · have hmem := List.mem_of_find?_eq_some hsome
    have hkey : m.hasKey raw keyType = true := by simpa using List.find?_some hsome
    rw [hmembers] at hmem
    obtain ⟨a, ha, rfl⟩ := List.mem_map.mp hmem
    refine .inl ⟨a, Keyed.filter_eq_singleton hkeys ?_ ha hkey, hfor⟩
    exact fun b _ c _ hb hc => hasKey_of_hasKey hb hc

/-- What a type without members is after some calls, what the next call does, and what is found. -/
structure History (t : EnumType) (calls : List Attempt) : Prop where
  /-- The members and their keys are what two tables hold that every call writes to. -/
  run : calls.foldl (MemberTables.after t.name) {} = (t.attempts calls).tables
  members : (t.attempts calls).tables.members =
    (t.accepted calls).map fun a => (a.member.name, a.member)
  keys : (t.attempts calls).tables.keys =
    (t.accepted calls).map fun a => ((a.member.raw, a.member.keyType), a.member.name)
  distinct : ((t.attempts calls).tables.members.map (·.1)).Nodup
  unequal : (t.attempts calls).tables.keys.Pairwise
    fun d e => ¬ (d.1.1.sameKey e.1.1 = true ∧ d.1.2 = e.1.2)
  next : ∀ a, Outcome (t.attempts calls) a ((t.attempts calls).addMember a.member a.label)
  /-- A call that fails leaves both tables as they were. -/
  left : ∀ a, (MemberTables.add t.name a).run (t.attempts calls).tables =
    match (t.attempts calls).addMember a.member a.label with
    | .ok u => .ok () u.tables
    | .error e => .error e (t.attempts calls).tables
  find : ∀ raw keyType referencedBy,
    (t.attempts calls).tables.find t.name raw keyType referencedBy =
      (t.attempts calls).memberFor raw keyType referencedBy
  unusable : ∀ raw keyType referencedBy, raw.usableAsKey = false →
    (t.attempts calls).memberFor raw keyType referencedBy = .error (.unusableKey raw.keyFault)
  found : ∀ raw keyType referencedBy, raw.usableAsKey = true →
    (∃ a, (t.accepted calls).filter (·.member.hasKey raw keyType) = [a] ∧
      (t.attempts calls).memberFor raw keyType referencedBy = .ok a.member) ∨
    ((∀ a ∈ t.accepted calls, a.member.hasKey raw keyType = false) ∧
      (t.attempts calls).memberFor raw keyType referencedBy =
        .error (.unresolvedKey t.name raw referencedBy))

theorem history (ht : t.members = []) (calls : List Attempt) : t.History calls := by
  have hrecorded := (recorded_of_nil ht).attempts calls
  have hname := name_attempts t calls
  have hmembers : (t.attempts calls).members = (t.accepted calls).map (·.member) := by
    rw [attempts_eq, ht, List.nil_append]
  have hempty : t.tables = {} := by rw [tables, ht]; rfl
  constructor
  · rw [← hempty, foldl_after_tables]
  · simp [tables, hmembers]
  · simp [tables, hmembers]
  · simpa [tables, memberNames, Function.comp_def] using hrecorded.names
  · have hkeys := hrecorded.keys
    simp only [← Bool.not_eq_true, hasKey_iff] at hkeys
    exact List.pairwise_map.mpr hkeys
  · exact outcome_addMember _
  · intro a
    rw [← hname]
    exact add_tables _ a
  · intro raw keyType referencedBy
    rw [← hname]
    exact find_tables hrecorded raw keyType referencedBy
  · intro raw keyType referencedBy hnot
    simp [memberFor, hnot]
  · exact fun raw keyType referencedBy husable => memberFor_attempts ht calls husable keyType referencedBy

/-- What the members and the keys of a type are after any calls, how each further call ends and what a
lookup finds. Numbers of whatever kind are the same key where they are worth the same, null is the
same as null only, and a not-a-number is the same as itself only. -/
theorem history_and_keys (ht : t.members = []) (calls : List Attempt) :
    t.History calls ∧
    (∀ a b x, a.numeric? = some x → (Value.sameKey a b = true ↔ b.numeric? = some x)) ∧
    (∀ v, Value.null.sameKey v = true ↔ v = .null) ∧
    ∀ a b, Value.IsNaN a → (a.sameKey b = true ↔ b = a) :=
  ⟨history ht calls, fun _ _ _ => Value.sameKey_iff_of_numeric, fun _ => Value.sameKey_null,
    fun _ _ => Value.sameKey_iff_of_isNaN⟩

def currency : EnumType where
  id := ⟨"Currency", none⟩
  attributes := []

/-- Calls with each ending. Keys are worth the same, of another type, or no number, and of the
not-a-numbers the last is the first once more. -/
def currencyCalls : List Attempt := [
  ⟨⟨"CAD", "1", .int 1, "int"⟩, .text "CAD"⟩,
  ⟨⟨"CAD", "1", .list [], "int"⟩, .text "CAD "⟩,
  ⟨⟨"USD", "1", .list [], "int"⟩, .null⟩,
  ⟨⟨"USD", "1", .decimal (.finite false 100 (-2)) 0, "int"⟩, .null⟩,
  ⟨⟨"USD", "1", .bool true, "long"⟩, .null⟩,
  ⟨⟨"XXX", "double.NaN", .float .nan 1, "int"⟩, .null⟩,
  ⟨⟨"XTS", "double.NaN", .float .nan 2, "int"⟩, .null⟩,
  ⟨⟨"XBA", "double.NaN", .float .nan 1, "int"⟩, .null⟩]

theorem history_and_keys_currency :
    (currency.accepted currencyCalls).map (·.member.name) = ["CAD", "USD", "XXX", "XTS"] ∧
      currency.History currencyCalls :=
  ⟨by decide +kernel, (history_and_keys rfl currencyCalls).1⟩

/-- A list cannot be a key, so looking it up is refused and not merely in vain. A not-a-number that is a
key already is refused as that key, and a view of bytes not for its kind but as they may change. -/
theorem refusals_currency :
    (∀ a ∈ currency.accepted currencyCalls, a.member.hasKey (.list [.int 1]) "int" = false) ∧
      (currency.attempts currencyCalls).memberFor (.list [.int 1]) "int" none ≠
        .error (.unresolvedKey "Currency" (.list [.int 1]) none) ∧
      (currency.attempts currencyCalls).addMember ⟨"XBA", "double.NaN", .float .nan 1, "int"⟩ .null =
        .error (.duplicateKey "Currency" (.float .nan 1) "XXX") ∧
      (currency.attempts currencyCalls).addMember ⟨"XBB", "1", .bytes (.view true) [1], "int"⟩ .null =
        .error (.unusableKey .changing) := by
  refine ⟨by decide +kernel, ?_, rfl, rfl⟩
  have hfor : (currency.attempts currencyCalls).memberFor (.list [.int 1]) "int" none =
      .error (.unusableKey (.kind "list")) := rfl
  rw [hfor]
  exact fun h => by cases h

end EnumType

end LookupEnums
