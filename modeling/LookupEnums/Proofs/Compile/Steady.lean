import LookupEnums.Proofs.Compile.History
import LookupEnums.Proofs.TypeEnv.Lookup

/-! # Steps that ask for no table

Between two requests a compilation works on the environment and notes what it does. However such a
step ends, it leaves the stack, the finished types and the types that were begun as they were; and it
misses a column only where there is none of that name.
-/
namespace LookupEnums
open Compile

namespace CompileError

def IsAboutColumns : CompileError → Prop
  | schema _ | missingCell _ => True
  | _ => False

end CompileError

namespace CompileEvent

def started? : CompileEvent → Option String
  | compiling _ t => some t
  | _ => none

theorem started?_ofDefine (before : Option Stage) (name : String) :
    ∀ e ∈ ofDefine before name, e.started? = none := by
  unfold ofDefine
  split <;> simp [started?]

theorem started?_ofResolve (before : Option Stage) (name : String) :
    ∀ e ∈ ofResolve before name, e.started? = none := by
  unfold ofResolve
  split <;> simp [started?]

end CompileEvent

namespace Session

/-- The types whose compilation was begun, in this order. -/
def started (s : Session) : List String :=
  s.journal.filterMap CompileEvent.started?

theorem started_note {s : Session} {events : List CompileEvent}
    (h : ∀ e ∈ events, e.started? = none) :
    ({ s with journal := s.journal ++ events } : Session).started = s.started := by
  unfold started
  rw [List.filterMap_append, List.filterMap_eq_nil_iff.mpr h, List.append_nil]

structure SameTables (s u : Session) : Prop where
  compiling : u.compiling = s.compiling
  completed : u.completed = s.completed
  started : u.started = s.started

namespace SameTables
variable {s u v : Session}

theorem refl (s : Session) : s.SameTables s := ⟨rfl, rfl, rfl⟩

theorem trans (h : s.SameTables u) (h' : u.SameTables v) : s.SameTables v :=
  ⟨h'.compiling.trans h.compiling, h'.completed.trans h.completed, h'.started.trans h.started⟩

end SameTables

end Session

namespace Compile
variable {α β : Type} {fail : CompileError → Prop}

def Steady (fail : CompileError → Prop) (x : Compile α) : Prop :=
  Within Session.SameTables (fun e s u => s.SameTables u ∧ fail e) x

theorem steadyFrame (fail : CompileError → Prop) :
    Frame Session.SameTables fun e s u => s.SameTables u ∧ fail e where
  refl := .refl
  trans h h' := h.trans h'
  late h h' := ⟨h.trans h'.1, h'.2⟩

namespace Steady

theorem pure (a : α) : Steady fail (Pure.pure a : Compile α) := (steadyFrame fail).pure a

theorem throw {e : CompileError} (h : fail e) : Steady fail (MonadExcept.throw e : Compile α) :=
  Within.throw fun s => ⟨.refl s, h⟩

theorem bind {x : Compile β} {f : β → Compile α} (hx : Steady fail x) (hf : ∀ b, Steady fail (f b)) :
    Steady fail (x >>= f) :=
  (steadyFrame fail).bind hx hf

theorem ite {c : Prop} [Decidable c] {x y : Compile α} (hx : Steady fail x) (hy : Steady fail y) :
    Steady fail (if c then x else y) :=
  Within.ite hx hy

theorem env : Steady fail Compile.env := (steadyFrame fail).env

theorem get : Steady fail (MonadState.get : Compile Session) := (steadyFrame fail).get

theorem note {events : List CompileEvent} (h : ∀ e ∈ events, e.started? = none) :
    Steady fail (Compile.note events) :=
  fun _ => ends_note.mpr ⟨rfl, rfl, Session.started_note h⟩

theorem modifyEnv (change : TypeEnv → TypeEnv) : Steady fail (Compile.modifyEnv change) :=
  fun _ => ends_modifyEnv.mpr ⟨rfl, rfl, rfl⟩

theorem liftExcept {x : Except CompileError α} (h : ∀ e, x = .error e → fail e) :
    Steady fail (Compile.liftExcept x) :=
  (steadyFrame fail).liftExcept fun e he s => ⟨.refl s, h e he⟩

theorem tryEnv {change : TypeEnv → Except CompileError TypeEnv}
    (h : ∀ env e, change env = .error e → fail e) : Steady fail (Compile.tryEnv change) := by
  intro s
  rw [ends_tryEnv]
  cases hchange : change s.env with
  | ok env => exact ends_liftExcept_ok.mpr ⟨rfl, rfl, rfl⟩
  | error e => exact ends_liftExcept_error.mpr ⟨.refl s, h s.env e hchange⟩

theorem forM {γ : Type} {f : γ → Compile Unit} {items : List γ} (h : ∀ a ∈ items, Steady fail (f a)) :
    Steady fail (items.forM f) :=
  (steadyFrame fail).forM h

end Steady

section table
variable {m : TableMapping} {d : TableData}

theorem steady_requireStorage (d : TableData) (column : String) :
    Steady (fun e => e.IsAboutColumns → d.storageType? column = none)
      (liftExcept (d.requireStorage column)) := by
  refine .liftExcept fun e he _ => ?_
  unfold TableData.requireStorage at he
  split at he
  next => cases he
  next hnone => exact hnone

theorem steady_requireData (m : TableMapping) :
    Steady (fun e => ¬ e.IsAboutColumns) (liftExcept m.requireData) := by
  refine .liftExcept fun e he => ?_
  unfold TableMapping.requireData at he
  split at he
  next => cases he
  next =>
    cases he
    exact not_false

theorem steady_defineType (m : TableMapping) : Steady fail (defineType m) :=
  Steady.env.bind fun _ => (Steady.note (CompileEvent.started?_ofDefine _ _)).bind fun _ =>
    .modifyEnv _

def defineKeyed (m : TableMapping) (d : TableData) : Compile StorageType := do
  let keyType ← liftExcept (d.requireStorage m.key)
  defineType m
  modifyEnv (·.setKeyType m.typeId keyType.name)
  return keyType

theorem declare_eq (m : TableMapping) (d : TableData) :
    declare m d = defineKeyed m d >>= fun keyType => m.columns.forM (declareColumn m d keyType) := by
  simp [declare, defineKeyed]

theorem steady_defineKeyed (m : TableMapping) (d : TableData) :
    Steady (fun e => e.IsAboutColumns → d.storageType? m.key = none) (defineKeyed m d) :=
  (steady_requireStorage d m.key).bind fun keyType => (steady_defineType m).bind fun _ =>
    (Steady.modifyEnv _).bind fun _ => .pure keyType

theorem steady_declareColumn (keyType : StorageType) (c : ColumnMapping) :
    Steady (fun e => e.IsAboutColumns → d.storageType? c.column = none)
      (declareColumn m d keyType c) := by
  unfold declareColumn
  refine (steady_requireStorage d c.column).bind fun storage => ?_
  have hself : Steady (fun e => e.IsAboutColumns → d.storageType? c.column = none)
      (throw (.cycle [m.typeName, m.typeName]) : Compile PUnit) := .throw False.elim
  have hdeclare {change : TypeEnv → TypeEnv} :
      Steady (fun e => e.IsAboutColumns → d.storageType? c.column = none)
        (do modifyEnv (·.reference (c.returnName storage)); modifyEnv change) :=
    (Steady.modifyEnv _).bind fun _ => .modifyEnv _
  exact .ite (hself.bind fun _ => hdeclare) hdeclare

theorem not_isAboutColumns_of_addMember {env : TypeEnv} {id : TypeId} {member : Member} {label : Value}
    {e : CompileError} (h : env.addMember id member label = .error e) : ¬ e.IsAboutColumns := by
  unfold TypeEnv.addMember at h
  split at h
  next => cases h
  next t _ =>
    rcases t.addMember_cases member label with ⟨-, hadd⟩ | ⟨-, hadd⟩ | ⟨_, -, hadd⟩ | ⟨-, -, -, hadd⟩
    all_goals rw [hadd] at h; cases h
    all_goals exact not_false

theorem steady_addRow (m : TableMapping) (keyType : String) (row : Row) :
    Steady (fun e => ¬ e.IsAboutColumns) (addRow m keyType row) := by
  unfold addRow
  have hadd : Steady (fun e => ¬ e.IsAboutColumns)
      (tryEnv (·.addMember m.typeId (memberOf keyType row) row.label)) :=
    .tryEnv fun _ _ => not_isAboutColumns_of_addMember
  exact .ite ((Steady.throw not_false).bind fun _ => hadd) hadd

def settleDemanded (id : AccessorId) (returns : TypeNode) : Compile Unit := do
  if returns.stage = .unresolved then
    note (CompileEvent.ofResolve ((← env).stage? returns.name) returns.name)
  modifyEnv (·.settleReturn id)

theorem steady_settleDemanded (id : AccessorId) (returns : TypeNode) :
    Steady (fun _ => False) (settleDemanded id returns) := by
  unfold settleDemanded
  have hsettle : Steady (fun _ => False) (modifyEnv (·.settleReturn id)) := .modifyEnv _
  refine .ite (Steady.env.bind fun env => ?_) hsettle
  exact (Steady.note (CompileEvent.started?_ofResolve _ _)).bind fun _ => hsettle

theorem not_isAboutColumns_of_caseExpression {env : TypeEnv} {c : ColumnMapping} {target : TypeNode}
    {raw : Value} {e : CompileError} (h : caseExpression env m c target raw = .error e) :
    ¬ e.IsAboutColumns := by
  unfold caseExpression referredMember at h
  split at h
  next =>
    split at h
    next t _ =>
      rcases t.memberFor_cases raw (t.keyType.getD "") (some s!"{m.typeName}.{c.accessor}") with
        ⟨-, hfor⟩ | ⟨-, hfor⟩ | ⟨_, -, -, hfor⟩
      all_goals rw [hfor] at h; cases h
      all_goals exact not_false
    next =>
      cases h
      exact not_false
  next => cases h

theorem steady_addCase (member : String) (row : Row) (c : ColumnMapping) :
    Steady (fun e => e.IsAboutColumns → row.cells.lookup c.column = none)
      (addCase m member row c) := by
  unfold addCase
  refine Steady.env.bind fun env => ?_
  cases env.accessor? (m.accessorId c) with
  | none => exact .pure _
  | some a =>
    refine .ite ?_ (.pure _)
    cases hcell : row.cells.lookup c.column with
    | none => exact .throw fun _ => rfl
    | some raw =>
      have hskip : ∀ e ∈ [CompileEvent.noCase m.typeName member a.name a.returns.name],
          e.started? = none := by simp [CompileEvent.started?]
      refine .ite (.note hskip) ?_
      refine (Steady.liftExcept fun e he hcolumns => ?_).bind fun _ => .modifyEnv _
      exact absurd hcolumns (not_isAboutColumns_of_caseExpression he)

/-- What `compileAll` does once all tables are compiled. -/
theorem steady_conclude :
    Steady (fun _ => False) (do note [.compiled (← get).completed.length]) :=
  Steady.get.bind fun _ => .note (by simp [CompileEvent.started?])

end table

end Compile

end LookupEnums
