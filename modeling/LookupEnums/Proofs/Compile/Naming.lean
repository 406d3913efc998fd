import LookupEnums.Mapping.Lines
import LookupEnums.Proofs.Compile.Adding
import LookupEnums.Proofs.Compile.History
import LookupEnums.Proofs.Compile.Step
import LookupEnums.Proofs.Loading
import LookupEnums.Proofs.Name.IntegerName

/-! # Whose names a compilation fails for

Only the row that is being added can have no name, or that of another row. On a session where no call
has failed the members of a type that is not finished are those of the rows before, so the other row is
one of the same table that stands before it.
-/
namespace LookupEnums
open Compile

namespace TypeEnv
variable (env : TypeEnv)

def namesIn (t : String) : List String :=
  ((env.enum? ⟨t, none⟩).map EnumType.memberNames).getD []

theorem namesIn_congr {env env' : TypeEnv} (h : env'.enums = env.enums) (t : String) :
    env'.namesIn t = env.namesIn t := by
  unfold namesIn enum?
  rw [h]

theorem namesIn_updateEnum {id : TypeId} {change : EnumType → EnumType}
    (hid : ∀ e, e.id = id → (change e).id = id)
    (hsame : ∀ e, (change e).memberNames = e.memberNames) (t : String) :
    (env.updateEnum id change).namesIn t = env.namesIn t := by
  unfold namesIn
  rw [enum?_updateEnum env hid]
  split
  next h =>
    subst h
    cases env.enum? ⟨t, none⟩ <;> simp [hsame]
  next => rfl

theorem namesIn_define (name : String) (attributes : List String) (t : String) :
    (env.define name attributes).namesIn t = env.namesIn t := by
  unfold namesIn
  rw [enum?_define]
  split
  · rfl
  · cases env.enum? ⟨t, none⟩ with
    | some e => rfl
    | none =>
      rw [Option.none_or]
      split <;> rfl

theorem namesIn_declare (a : Accessor) (t : String) :
    (env.declare a).namesIn t = env.namesIn t := by
  cases hknown : env.accessor? a.id with
  | some b => rw [declare_of_known env hknown]
  | none =>
    rw [declare_of_new env hknown]
    refine namesIn_updateEnum _ ?_ ?_ t
    · exact fun _ h => h
    · exact fun _ => rfl

theorem namesIn_settleReturn (id : AccessorId) (t : String) :
    (env.settleReturn id).namesIn t = env.namesIn t := by
  unfold settleReturn
  split
  · rfl
  · exact namesIn_congr (enums_ground env _) t

/-- A recorded member is the last one of its type, if there is such a type. -/
theorem namesIn_updateEnum_of_addMember {t : EnumType} {m : Member} {name u : String}
    (ht : env.enum? ⟨name, none⟩ = some t) :
    (env.updateEnum ⟨name, none⟩ fun _ => { t with members := t.members ++ [m] }).namesIn u =
      if u = name then env.namesIn name ++ [m.name] else env.namesIn u := by
  have hid : t.id = ⟨name, none⟩ := by simpa using List.find?_some ht
  unfold namesIn
  rw [enum?_updateEnum env]
  rotate_left
  · exact fun _ _ => hid
  by_cases hu : u = name
  · simp [hu, ht, EnumType.memberNames]
  · simp [hu]

end TypeEnv

namespace CompileError

/-- Whether an error is about the name of a member. -/
def IsAboutNames : CompileError → Prop
  | emptyIdentifier _ _ | duplicateMember _ _ _ => True
  | _ => False

end CompileError

namespace Compile
variable {α β : Type} {s u : Session}

structure SameNames (s u : Session) : Prop where
  compiling : u.compiling = s.compiling
  completed : u.completed = s.completed
  names : ∀ t, u.env.namesIn t = s.env.namesIn t

namespace SameNames

theorem refl (s : Session) : SameNames s s := ⟨rfl, rfl, fun _ => rfl⟩

theorem trans {v : Session} (h : SameNames s u) (h' : SameNames u v) : SameNames s v :=
  ⟨h'.compiling.trans h.compiling, h'.completed.trans h.completed,
    fun t => (h'.names t).trans (h.names t)⟩

end SameNames

def Calm (x : Compile α) : Prop :=
  ∀ s : Session, Ends x s (fun _ u => SameNames s u) fun e _ => ¬ e.IsAboutNames

theorem calmFrame : Frame SameNames fun e _ _ => ¬ e.IsAboutNames where
  refl := .refl
  trans h h' := h.trans h'
  late _ h := h

namespace Calm

theorem pure (a : α) : Calm (Pure.pure a : Compile α) := calmFrame.pure a

theorem throw {e : CompileError} (h : ¬ e.IsAboutNames) : Calm (MonadExcept.throw e : Compile α) :=
  Within.throw fun _ => h

theorem bind {x : Compile β} {f : β → Compile α} (hx : Calm x) (hf : ∀ b, Calm (f b)) :
    Calm (x >>= f) :=
  calmFrame.bind hx hf

theorem ite {c : Prop} [Decidable c] {x y : Compile α} (hx : Calm x) (hy : Calm y) :
    Calm (if c then x else y) :=
  Within.ite hx hy

theorem env : Calm Compile.env := calmFrame.env

theorem note (events : List CompileEvent) : Calm (Compile.note events) :=
  fun _ => ends_note.mpr ⟨rfl, rfl, fun _ => rfl⟩

theorem liftExcept {x : Except CompileError α} (h : ∀ e, x = .error e → ¬ e.IsAboutNames) :
    Calm (Compile.liftExcept x) :=
  calmFrame.liftExcept fun e he _ => h e he

theorem modifyEnv {change : TypeEnv → TypeEnv}
    (h : ∀ env t, (change env).namesIn t = env.namesIn t) : Calm (Compile.modifyEnv change) :=
  fun s => ends_modifyEnv.mpr ⟨rfl, rfl, h s.env⟩

theorem forM {γ : Type} {f : γ → Compile Unit} (items : List γ) (h : ∀ a, Calm (f a)) :
    Calm (items.forM f) :=
  calmFrame.forM fun a _ => h a

end Calm

section table
variable {m : TableMapping} {d : TableData}

theorem calm_requireStorage (d : TableData) (column : String) :
    Calm (liftExcept (d.requireStorage column)) := by
  refine Calm.liftExcept fun e he => ?_
  unfold TableData.requireStorage at he
  split at he
  · cases he
  · cases he
    exact id

theorem calm_declareColumn (keyType : StorageType) (c : ColumnMapping) :
    Calm (declareColumn m d keyType c) := by
  unfold declareColumn
  refine (calm_requireStorage d c.column).bind fun storage => ?_
  have hdeclare : Calm (do
      modifyEnv (·.reference (c.returnName storage))
      modifyEnv fun env => env.declare (m.declared keyType storage c env) : Compile Unit) := by
    refine (Calm.modifyEnv fun env t => ?_).bind fun _ => Calm.modifyEnv fun env t => ?_
    · exact TypeEnv.namesIn_congr (TypeEnv.enums_reference env _) t
    · exact TypeEnv.namesIn_declare env _ t
  exact Calm.ite ((Calm.throw id).bind fun _ => hdeclare) hdeclare

theorem calm_declare (m : TableMapping) (d : TableData) : Calm (declare m d) := by
  unfold declare defineType
  refine (calm_requireStorage d m.key).bind fun keyType => ?_
  refine (Calm.env.bind fun env => (Calm.note _).bind fun _ => ?_).bind fun _ => ?_
  · exact Calm.modifyEnv fun env t => TypeEnv.namesIn_define env _ _ t
  · refine (Calm.modifyEnv fun env t => ?_).bind fun _ => Calm.forM _ fun c => calm_declareColumn keyType c
    refine TypeEnv.namesIn_updateEnum env ?_ ?_ t
    · exact fun _ h => h
    · exact fun _ => rfl

theorem memberFor_not_aboutNames {t : EnumType} {raw : Value} {keyType : String}
    {referencedBy : Option String} {e : CompileError}
    (h : t.memberFor raw keyType referencedBy = .error e) : ¬ e.IsAboutNames := by
  rcases t.memberFor_cases raw keyType referencedBy with ⟨-, hfor⟩ | ⟨-, hfor⟩ | ⟨_, -, -, hfor⟩
  all_goals rw [hfor] at h; cases h
  all_goals exact id

theorem caseExpression_not_aboutNames {env : TypeEnv} {c : ColumnMapping} {target : TypeNode}
    {raw : Value} {e : CompileError} (h : caseExpression env m c target raw = .error e) :
    ¬ e.IsAboutNames := by
  unfold caseExpression referredMember at h
  split at h
  · split at h
    next t _ =>
      cases hfor : t.memberFor raw (t.keyType.getD "") (some s!"{m.typeName}.{c.accessor}") with
      | ok member =>
        rw [hfor] at h
        cases h
      | error e' =>
        rw [hfor] at h
        cases h
        exact memberFor_not_aboutNames hfor
    next =>
      cases h
      exact id
  · cases h

theorem calm_addCase (member : String) (row : Row) (c : ColumnMapping) :
    Calm (addCase m member row c) := by
  unfold addCase
  refine Calm.env.bind fun env => ?_
  cases env.accessor? (m.accessorId c) with
  | none => exact Calm.pure _
  | some a =>
    refine Calm.ite ?_ (Calm.pure _)
    cases row.cells.lookup c.column with
    | none => exact Calm.throw id
    | some raw =>
      refine Calm.ite (Calm.note _) ((Calm.liftExcept fun _ => caseExpression_not_aboutNames).bind ?_)
      exact fun expression => Calm.modifyEnv fun env t => TypeEnv.namesIn_congr rfl t

end table

end Compile

namespace Plan
variable {p : Plan} {m : TableMapping} {d : TableData} {stack : List String} {s : Session}
  {onDemand : String → Compile Unit}

/-- The row that an error about names is about: it has no name, or that of a row before it. -/
def Blames (p : Plan) : CompileError → Prop
  | .emptyIdentifier t label => ∃ m ∈ p.mappings, m.typeName = t ∧ ∃ d, m.data = some d ∧
      ∃ row ∈ d.rows, row.label = label ∧ row.memberName = ""
  | .duplicateMember t name _ => ∃ m ∈ p.mappings, m.typeName = t ∧ ∃ d, m.data = some d ∧
      ∃ before row after, d.rows = before ++ row :: after ∧ row.memberName = name ∧
        name ∈ before.map Row.memberName
  | _ => True

theorem blames_of_not_aboutNames {e : CompileError} (h : ¬ e.IsAboutNames) : p.Blames e := by
  cases e <;> first | trivial | exact absurd trivial h

/-- Types that are neither finished nor being compiled have no members. -/
structure Fresh (stack : List String) (s : Session) : Prop where
  compiling : s.compiling = stack
  unnamed : ∀ t, t ∉ stack → t ∉ s.completed → s.env.namesIn t = []

theorem Fresh.same {u : Session} (h : Fresh stack s) (hsame : SameNames s u) : Fresh stack u where
  compiling := hsame.compiling.trans h.compiling
  unnamed t ht hnot := (hsame.names t).trans (h.unnamed t ht (hsame.completed ▸ hnot))

theorem Fresh.addMember {t : EnumType} {member : Member} (h : Fresh stack s) {name : String}
    (hname : name ∈ stack) (ht : s.env.enum? ⟨name, none⟩ = some t) :
    Fresh stack { s with
      env := s.env.updateEnum ⟨name, none⟩ fun _ => { t with members := t.members ++ [member] } } where
  compiling := h.compiling
  unnamed u hu hnot := by
    have hother : u ≠ name := fun hsame => hu (hsame ▸ hname)
    rw [TypeEnv.namesIn_updateEnum_of_addMember _ ht, if_neg hother]
    exact h.unnamed u hu hnot

/-- The members of the type of a table are those of the rows before, or fewer. -/
theorem ends_addRow_fresh (hm : m ∈ p.mappings) (hdata : m.data = some d) {keyType : String}
    {before after : List Row} {row : Row} (hsplit : d.rows = before ++ row :: after)
    (hstack : m.typeName ∈ stack) (h : Fresh stack s)
    (hnames : s.env.namesIn m.typeName ⊆ before.map Row.memberName) :
    Ends (addRow m keyType row) s
      (fun _ u => Fresh stack u ∧ u.env.namesIn m.typeName ⊆ (before ++ [row]).map Row.memberName)
      (fun e _ => p.Blames e) := by
  have hrow : row ∈ d.rows := by simp [hsplit]
  have hmore : before.map Row.memberName ⊆ (before ++ [row]).map Row.memberName :=
    List.map_subset _ (List.subset_append_left _ _)
  unfold addRow
  simp only [Draft.name_memberOf, String.isEmpty_iff]
  refine ends_ite.mpr ⟨?_, ?_⟩
  · intro hempty
    rw [ends_bind, ends_throw]
    exact ⟨m, hm, rfl, d, hdata, row, hrow, rfl, hempty⟩
  · intro _
    rw [ends_tryEnv, TypeEnv.addMember]
    cases ht : s.env.enum? m.typeId with
    | none => exact ends_liftExcept_ok.mpr ⟨h, List.Subset.trans hnames hmore⟩
    | some t =>
      have hid : t.id = m.typeId := by simpa using List.find?_some ht
      have hmembers : s.env.namesIn m.typeName = t.memberNames := by
        have ht : s.env.enum? ⟨m.typeName, none⟩ = some t := ht
        rw [TypeEnv.namesIn, ht]
        rfl
      rcases t.addMember_cases (memberOf keyType row) row.label with
        ⟨htaken, hadd⟩ | ⟨-, hadd⟩ | ⟨_, -, hadd⟩ | ⟨-, -, -, hadd⟩
      all_goals simp only [hadd, Except.map, ends_liftExcept_ok, ends_liftExcept_error]
      · rw [← hmembers] at htaken
        have hname : t.name = m.typeName := by rw [EnumType.name, hid]; rfl
        rw [hname]
        exact ⟨m, hm, rfl, d, hdata, before, row, after, hsplit, rfl, hnames htaken⟩
      · trivial
      · trivial
      · refine ⟨h.addMember hstack ht, ?_⟩
        change (s.env.updateEnum ⟨m.typeName, none⟩ _).namesIn m.typeName ⊆ _
        rw [TypeEnv.namesIn_updateEnum_of_addMember _ ht, if_pos rfl, List.map_append]
        exact List.append_subset.mpr
          ⟨List.Subset.trans hnames (List.subset_append_left _ _), List.subset_append_right _ _⟩

theorem ends_settle_fresh
    (hdemand : ∀ name s, Fresh stack s →
      Ends (onDemand name) s (fun _ u => Fresh stack u) fun e _ => p.Blames e)
    (h : Fresh stack s) (id : AccessorId) :
    Ends (settle onDemand id) s (fun _ u => Fresh stack u) fun e _ => p.Blames e := by
  unfold settle
  rw [ends_bind, ends_env]
  cases s.env.accessor? id with
  | none => exact ends_pure.mpr h
  | some a =>
    simp only [ends_bind]
    refine (hdemand a.returns.name s h).mono (fun _ u hu => ?_) fun _ _ he => he
    have hsettle : Calm (modifyEnv (·.settleReturn id)) :=
      Calm.modifyEnv fun env t => TypeEnv.namesIn_settleReturn env id t
    have hrest := Calm.ite (c := a.returns.stage = .unresolved)
      (Calm.env.bind fun env => (Calm.note
        (CompileEvent.ofResolve (env.stage? a.returns.name) a.returns.name)).bind fun _ => hsettle) hsettle
    exact (hrest u).mono (fun _ _ hv => hu.same hv) fun _ _ he => blames_of_not_aboutNames he

theorem ends_fill_fresh (hm : m ∈ p.mappings) (hdata : m.data = some d) (hstack : m.typeName ∈ stack)
    (hdemand : ∀ name s, Fresh stack s →
      Ends (onDemand name) s (fun _ u => Fresh stack u) fun e _ => p.Blames e)
    (h : Fresh stack s) (hnone : s.env.namesIn m.typeName = []) :
    Ends (fill onDemand m d) s (fun _ u => Fresh stack u) fun e _ => p.Blames e := by
  unfold fill fillDeclared
  rw [ends_bind]
  refine (calm_declare m d s).mono (fun _ u hu => ?_) fun _ _ he => blames_of_not_aboutNames he
  rw [ends_bind]
  refine (calm_requireStorage d m.key u).mono (fun keyType v hv => ?_)
    fun _ _ he => blames_of_not_aboutNames he
  have hcalm := hu.trans hv
  have hstart : v.env.namesIn m.typeName ⊆ [] := by
    rw [hcalm.names, hnone]
    exact List.Subset.refl _
  rw [ends_bind]
  refine Ends.mono (ends_forM (fun before w => Fresh stack w ∧
    w.env.namesIn m.typeName ⊆ before.map Row.memberName) d.rows ⟨h.same hcalm, hstart⟩ ?_) ?_
    fun _ _ he => he
  · rintro before row after w hsplit ⟨hfresh, hnames⟩
    exact ends_addRow_fresh hm hdata hsplit hstack hfresh hnames
  · rintro - w ⟨hfresh, -⟩
    rw [ends_bind]
    refine Ends.mono (ends_forM (fun _ x => Fresh stack x) m.columns hfresh ?_) ?_ fun _ _ he => he
    · exact fun _ c _ x _ hx => ends_settle_fresh hdemand hx (m.accessorId c)
    · intro _ x hx
      have hcases := Calm.forM d.rows fun row =>
        Calm.forM m.columns fun c => calm_addCase (m := m) (memberOf keyType.name row).name row c
      exact (hcases x).mono (fun _ _ hy => hx.same hy) fun _ _ he => blames_of_not_aboutNames he

theorem ends_compileTable_fresh (hm : m ∈ p.mappings) (hstack : m.typeName ∈ stack)
    (hdemand : ∀ name s, Fresh stack s →
      Ends (onDemand name) s (fun _ u => Fresh stack u) fun e _ => p.Blames e)
    (h : Fresh stack s) (hnone : s.env.namesIn m.typeName = []) :
    Ends (compileTable onDemand m) s (fun _ u => Fresh stack u) fun e _ => p.Blames e := by
  unfold compileTable TableMapping.requireData
  rw [ends_bind, ends_note, ends_bind]
  cases hdata : m.data with
  | none => exact ends_liftExcept_error.mpr trivial
  | some d =>
    rw [ends_liftExcept_ok]
    exact ends_fill_fresh hm hdata hstack hdemand ⟨h.compiling, h.unnamed⟩ hnone

theorem ends_requireWithin_fresh (room : Nat) (name : String) (h : Fresh stack s) :
    Ends (requireWithin p room name) s (fun _ u => Fresh stack u) fun e _ => p.Blames e := by
  induction room generalizing name stack s with
  | zero => exact ends_pure.mpr h
  | succ room ih =>
    unfold requireWithin
    cases hmapping : p.mapping? name with
    | none => exact ends_pure.mpr h
    | some m =>
      obtain ⟨hm, rfl⟩ := mapping?_eq_some.mp hmapping
      simp only [ends_bind, ends_get, List.contains_eq_mem, decide_eq_true_eq]
      refine ends_ite.mpr ⟨fun _ => ends_pure.mpr h, fun hopen => ends_ite.mpr ⟨fun _ => ?_, fun hnew => ?_⟩⟩
      · exact ends_throw.mpr trivial
      · rw [h.compiling] at hnew
        have hbegun : Fresh (stack ++ [m.typeName])
            { s with compiling := s.compiling ++ [m.typeName] } :=
          ⟨by rw [h.compiling], fun t ht => h.unnamed t fun hmem => ht (List.mem_append_left _ hmem)⟩
        rw [ends_bind, ends_during]
        refine (ends_compileTable_fresh hm (by simp) (fun name s hs => ih name hs) hbegun
          (h.unnamed _ hnew hopen)).mono (fun _ u hu => ?_) fun _ _ he => he
        refine ends_complete.mpr ⟨by simp [hu.compiling], fun t ht hnot => ?_⟩
        have hother : t ∉ stack ++ [m.typeName] := by
          simp only [List.mem_append, not_or] at hnot ⊢
          exact ⟨ht, hnot.2⟩
        exact hu.unnamed t hother fun hmem => hnot (List.mem_append_left _ hmem)

theorem Fresh.start : Fresh [] {} := ⟨rfl, fun _ _ _ => rfl⟩

theorem ends_call_fresh (h : Fresh [] s) (call : Call) :
    Ends (call.run p) s (fun _ u => Fresh [] u) fun e _ => p.Blames e := by
  cases call with
  | require name => exact ends_requireWithin_fresh _ name h
  | compileAll =>
    unfold Call.run compileAll
    rw [ends_bind]
    refine Ends.mono (ends_forM (fun _ s => Fresh [] s) p.typeNames h ?_) ?_ fun _ _ he => he
    · exact fun _ name _ s _ hs => ends_requireWithin_fresh _ name hs
    · intro _ s hs
      simp only [ends_bind, ends_get, ends_note]
      exact ⟨hs.compiling, hs.unnamed⟩

theorem fresh_of_calls {calls : List Call} (h : (calls.forM (·.run p)).run {} = .ok () s) :
    Fresh [] s :=
  (ends_forM (fun _ s => Fresh [] s) calls Fresh.start
    fun _ call _ _ _ hs => ends_call_fresh hs call).of_ok h

/-- After calls that succeeded, a call that fails because of a name blames a row of the plan. -/
theorem blames_of_call {calls : List Call} {call : Call} {e : CompileError} {u : Session}
    (hcalls : (calls.forM (·.run p)).run {} = .ok () s) (h : (call.run p).run s = .error e u) :
    p.Blames e :=
  (ends_call_fresh (fresh_of_calls hcalls) call).of_error h

theorem memberName_eq_of_label {row : Row} {i : Int} (h : row.label = .int i) :
    row.memberName = Name.normalize (String.ofList (Text.intDigits i)) := by
  rw [Row.memberName, h]
  rfl

/-- Without a `label` line the key of a table is its label. -/
theorem label_eq_key_of_complete {t t' : MappingLines.TableEntry}
    (h : MappingLines.complete t = .ok t') (hnone : t.label = none) : t'.label = t'.key := by
  unfold MappingLines.complete at h
  cases hkey : t.key with
  | some key =>
    rw [hkey] at h
    cases h
    simp [hnone, hkey]
  | none =>
    cases hcolumns : t.columns with
    | nil =>
      rw [hkey, hcolumns] at h
      cases h
    | cons c columns =>
      rw [hkey, hcolumns] at h
      cases h
      simp [hnone]

section labels
variable {r : ResultSet} {calls : List Call} {call : Call} {e : CompileError} {u : Session}

theorem integer_label (hload : Loading.dataOf m r = .ok d) (hsame : m.label = m.key)
    (hkeys : ∀ row ∈ d.rows, ∃ i, row.key = .int i) {row : Row} (hrow : row ∈ d.rows) :
    ∃ i, row.key = .int i ∧ row.memberName = Name.normalize (String.ofList (Text.intDigits i)) := by
  obtain ⟨i, hkey⟩ := hkeys row hrow
  have hlabel := Loading.label_eq_key hload hsame row hrow
  exact ⟨i, hkey, memberName_eq_of_label (hlabel.trans hkey)⟩

theorem ne_emptyIdentifier (hm : m ∈ p.mappings) (hload : Loading.dataOf m r = .ok d)
    (hdata : m.data = some d) (hsame : m.label = m.key)
    (hkeys : ∀ row ∈ d.rows, ∃ i, row.key = .int i) (hcalls : (calls.forM (·.run p)).run {} = .ok () s)
    (h : (call.run p).run s = .error e u) (label : Value) : e ≠ .emptyIdentifier m.typeName label := by
  rintro rfl
  obtain ⟨m', hm', htype, d', hdata', row, hrow, -, hempty⟩ := blames_of_call hcalls h
  obtain rfl := mappings_ext hm hm' htype
  obtain rfl := Option.some.inj (hdata.symm.trans hdata')
  obtain ⟨i, -, hname⟩ := integer_label hload hsame hkeys hrow
  rw [hname] at hempty
  exact Name.normalize_intDigits_ne_empty i hempty

theorem same_key_of_duplicateMember (hm : m ∈ p.mappings) (hload : Loading.dataOf m r = .ok d)
    (hdata : m.data = some d) (hsame : m.label = m.key)
    (hkeys : ∀ row ∈ d.rows, ∃ i, row.key = .int i) (hcalls : (calls.forM (·.run p)).run {} = .ok () s)
    {name : String} {label : Value}
    (h : (call.run p).run s = .error (.duplicateMember m.typeName name label) u) :
    ∃ before row after, d.rows = before ++ row :: after ∧ ∃ earlier ∈ before, earlier.key = row.key := by
  obtain ⟨m', hm', htype, d', hdata', before, row, after, hsplit, hname, hbefore⟩ :=
    blames_of_call hcalls h
  obtain rfl := mappings_ext hm hm' htype
  obtain rfl := Option.some.inj (hdata.symm.trans hdata')
  obtain ⟨earlier, hearlier, hname'⟩ := List.mem_map.mp hbefore
  have hrow : row ∈ d.rows := by simp [hsplit]
  have hother : earlier ∈ d.rows := by simp [hsplit, hearlier]
  obtain ⟨i, hkey, hi⟩ := integer_label hload hsame hkeys hrow
  obtain ⟨j, hkey', hj⟩ := integer_label hload hsame hkeys hother
  have hij : j = i := Name.normalize_intDigits_injective (by rw [← hj, ← hi, hname', hname])
  exact ⟨before, row, after, hsplit, earlier, hearlier, by rw [hkey', hkey, hij]⟩

end labels

/-- The decimal texts of two integers make two names, and none of them is empty. So a table whose
label is its key, and whose keys are integers, never fails for a name that is missing, and for one that
is there twice only if one of its keys is, as long as the calls before have succeeded. -/
theorem integer_labels :
    (∀ i j : Int, i ≠ j →
      Name.normalize (String.ofList (Text.intDigits i)) ≠
        Name.normalize (String.ofList (Text.intDigits j)) ∧
      Name.normalize (String.ofList (Text.intDigits i)) ≠ "") ∧
    (∀ t t' : MappingLines.TableEntry, MappingLines.complete t = .ok t' → t.label = none →
      t'.label = t'.key) ∧
    ∀ (p : Plan) (m : TableMapping) (r : ResultSet) (d : TableData), m ∈ p.mappings →
      m.label = m.key → Loading.dataOf m r = .ok d → m.data = some d →
      (∀ row ∈ d.rows, ∃ i, row.key = .int i) →
      ∀ (calls : List Call) (call : Call) (s : Session) (e : CompileError) (u : Session),
        (calls.forM (·.run p)).run {} = .ok () s → (call.run p).run s = .error e u →
        (∀ label, e ≠ .emptyIdentifier m.typeName label) ∧
        ∀ name label, e = .duplicateMember m.typeName name label →
          ∃ before row after, d.rows = before ++ row :: after ∧
            ∃ earlier ∈ before, earlier.key = row.key := by
  refine ⟨fun i j hij => ⟨?_, Name.normalize_intDigits_ne_empty i⟩,
    fun _ _ => label_eq_key_of_complete, ?_⟩
  · exact fun hname => hij (Name.normalize_intDigits_injective hname)
  · intro p m r d hm hsame hload hdata hkeys calls call s e u hcalls h
    refine ⟨ne_emptyIdentifier hm hload hdata hsame hkeys hcalls h, ?_⟩
    rintro name label rfl
    exact same_key_of_duplicateMember hm hload hdata hsame hkeys hcalls h

def placeRows : ResultSet where
  table := "place"
  columns := [("id", ⟨"int", false⟩)]
  rows := [[("id", .int (-7))], [("id", .int 7)], [("id", .int 7)]]

def placeMapping : TableMapping where
  table := "place"
  typeName := "Place"
  key := "id"
  label := "id"
  columns := []
  attributes := []
  data := some ⟨"place", [("id", ⟨"int", false⟩)],
    [⟨.int (-7), .int (-7), []⟩, ⟨.int 7, .int 7, []⟩, ⟨.int 7, .int 7, []⟩]⟩

def places : Plan where
  mappings := [placeMapping,
    { table := "tier"
      typeName := "Tier"
      key := "id"
      label := "id"
      columns := []
      attributes := []
      data := some ⟨"tier", [("id", ⟨"int", false⟩)], [⟨.int 1, .int 1, []⟩]⟩ }]
  distinct := by decide

/-- The tiers compile by themselves, and then the places do not. -/
theorem integer_labels_places :
    ∃ s, (List.forM [Call.require "Tier"] (·.run places)).run {} = .ok () s ∧
      (∃ u, (Call.compileAll.run places).run s = .error (.duplicateMember "Place" "Seven" (.int 7)) u) ∧
      ∃ d before row after, placeMapping.data = some d ∧ d.rows = before ++ row :: after ∧
        ∃ earlier ∈ before, earlier.key = row.key := by
  have hcalls : ∃ s, (List.forM [Call.require "Tier"] (·.run places)).run {} = .ok () s ∧
      ∃ u, (Call.compileAll.run places).run s =
        .error (.duplicateMember "Place" "Seven" (.int 7)) u := ⟨_, by rfl, _, by rfl⟩
  obtain ⟨s, hs, u, hu⟩ := hcalls
  have hlabels := integer_labels.2.2 places placeMapping placeRows _ List.mem_cons_self rfl rfl rfl
    (by simp) [.require "Tier"] .compileAll s _ u hs hu
  obtain ⟨before, row, after, hsplit, hearlier⟩ := hlabels.2 _ _ rfl
  exact ⟨s, hs, ⟨u, hu⟩, _, before, row, after, rfl, hsplit, hearlier⟩

end Plan

end LookupEnums
