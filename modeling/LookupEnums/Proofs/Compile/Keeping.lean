import LookupEnums.Proofs.Compile.History
import LookupEnums.Proofs.Compile.Step

/-! # What every change of the environment keeps

However a step of a compilation ends, the environment that it leaves came about by changes of the
few kinds there are. So a property that each of them keeps holds in every session, also in those that
failed calls have left.
-/
namespace LookupEnums
open Compile

namespace Compile
variable {α β : Type} {P : TypeEnv → Prop} {s : Session}

def Keeps (P : TypeEnv → Prop) (x : Compile α) : Prop :=
  ∀ s : Session, P s.env → Ends x s (fun _ u => P u.env) (fun _ u => P u.env)

namespace Keeps

theorem pure (a : α) : Keeps P (Pure.pure a : Compile α) := fun _ h => ends_pure.mpr h

theorem throw (e : CompileError) : Keeps P (MonadExcept.throw e : Compile α) :=
  fun _ h => ends_throw.mpr h

theorem bind {x : Compile β} {f : β → Compile α} (hx : Keeps P x) (hf : ∀ b, Keeps P (f b)) :
    Keeps P (x >>= f) := by
  intro s hs
  rw [ends_bind]
  exact (hx s hs).mono (fun b u hu => hf b u hu) fun _ _ hu => hu

theorem ite {c : Prop} [Decidable c] {x y : Compile α} (hx : c → Keeps P x) (hy : ¬ c → Keeps P y) :
    Keeps P (if c then x else y) :=
  fun s hs => ends_ite.mpr ⟨fun hc => hx hc s hs, fun hc => hy hc s hs⟩

theorem env : Keeps P Compile.env := fun _ h => ends_env.mpr h

theorem get : Keeps P (MonadState.get : Compile Session) := fun _ h => ends_get.mpr h

theorem note (events : List CompileEvent) : Keeps P (Compile.note events) :=
  fun _ h => ends_note.mpr h

theorem liftExcept (x : Except CompileError α) : Keeps P (Compile.liftExcept x) := by
  cases x with
  | ok a => exact Keeps.pure a
  | error e => exact Keeps.throw e

theorem modifyEnv {change : TypeEnv → TypeEnv} (h : ∀ env, P env → P (change env)) :
    Keeps P (Compile.modifyEnv change) := fun s hs => ends_modifyEnv.mpr (h s.env hs)

theorem tryEnv {change : TypeEnv → Except CompileError TypeEnv}
    (h : ∀ env env', P env → change env = .ok env' → P env') : Keeps P (Compile.tryEnv change) := by
  intro s hs
  rw [ends_tryEnv]
  cases hchange : change s.env with
  | ok env => exact ends_liftExcept_ok.mpr (h s.env env hs hchange)
  | error e => exact ends_liftExcept_error.mpr hs

theorem forM {γ : Type} {f : γ → Compile Unit} {items : List γ} (h : ∀ a ∈ items, Keeps P (f a)) :
    Keeps P (items.forM f) := by
  intro s hs
  refine ends_forM (fun _ u => P u.env) items hs ?_
  intro before a after u hsplit hu
  exact h a (by simp [hsplit]) u hu

theorem during {t : String} {x : Compile Unit} (hx : Keeps P x) : Keeps P (Compile.during t x) :=
  fun s hs => ends_during.mpr (hx { s with compiling := s.compiling ++ [t] } hs)

theorem complete {t : String} : Keeps P (Compile.complete t) := fun _ h => ends_complete.mpr h

theorem after {x : Compile Unit} (hx : Keeps P x) (hs : P s.env) : P (Compile.after x s).env :=
  (hx s hs).after (motive := fun u => P u.env) (fun _ hu => hu) fun _ _ hu => hu

end Keeps

end Compile

namespace Plan

/-- Each operation leads from environments with `P` to such again. -/
def Closed (p : Plan) (P : TypeEnv → Prop) : Prop :=
  ∀ env env', p.Step env env' → P env → P env'

theorem Closed.internal {p : Plan} {P : TypeEnv → Prop} (hP : p.Closed P)
    (hbacked : ∀ env, P env → Backed env) (name : String) :
    p.Closed fun env => P env ∧ env.stage? name = some .internal :=
  fun env env' hstep h => ⟨hP env env' hstep h.1, hstep.internal (hbacked env h.1).nodup h.2⟩

section closed
variable {p : Plan} {P : TypeEnv → Prop} {m : TableMapping} {d : TableData} {keyType : StorageType}
  {onDemand : String → Compile Unit}

theorem keeps_declareColumn (hP : p.Closed P) (hm : m ∈ p.mappings) (hdata : m.data = some d)
    (hdefined : ∀ env, P env → env.stage? m.typeName = some .internal) {c : ColumnMapping}
    (hc : c ∈ m.columns) : Keeps P (declareColumn m d keyType c) := by
  intro s hs
  unfold declareColumn TableData.requireStorage
  cases hstorage : d.storageType? c.column with
  | none =>
    rw [ends_bind]
    exact ends_liftExcept_error.mpr hs
  | some storage =>
    simp only [ends_bind, ends_liftExcept_ok]
    refine ends_ite.mpr ⟨fun _ => ?_, fun _ => ?_⟩
    · rw [ends_bind]
      exact ends_throw.mpr hs
    · simp only [ends_bind, ends_modifyEnv]
      have href : P (s.env.reference (c.returnName storage)) := hP _ _ (Step.reference _) hs
      exact hP _ _ (Step.declare keyType hm hdata hc hstorage (hdefined _ href)) href

theorem keeps_declare (hP : p.Closed P) (hbacked : ∀ env, P env → Backed env) (hm : m ∈ p.mappings)
    (hdata : m.data = some d) : Keeps P (declare m d) := by
  unfold declare defineType
  refine (Keeps.liftExcept _).bind fun keyType => ?_
  intro s hs
  simp only [ends_bind, ends_env, ends_note, ends_modifyEnv]
  have hdefine : P (s.env.define m.typeName m.attributes) := hP _ _ (Step.define hm) hs
  -- the type of the table is there from here on
  have hdefined : (s.env.define m.typeName m.attributes).stage? m.typeName = some .internal := by
    simp [TypeEnv.stage?_define]
  have hinternal := hP.internal hbacked m.typeName
  have hcolumns : Keeps (fun env => P env ∧ env.stage? m.typeName = some .internal)
      (m.columns.forM (declareColumn m d keyType)) :=
    Keeps.forM fun c hc => keeps_declareColumn hinternal hm hdata (fun _ h => h.2) hc
  have hkeyed := hinternal _ _ (Step.setKeyType m.typeId keyType.name) ⟨hdefine, hdefined⟩
  exact (hcolumns _ hkeyed).mono (fun _ _ hu => hu.1) fun _ _ hu => hu.1

theorem keeps_addRow (hP : p.Closed P) (key : String) (row : Row) : Keeps P (addRow m key row) := by
  unfold addRow
  refine Keeps.ite (fun _ => ?_) fun _ => ?_
  · exact (Keeps.throw _).bind fun _ => Keeps.tryEnv fun _ _ h hadd => hP _ _ (Step.addMember hadd) h
  · exact Keeps.tryEnv fun _ _ h hadd => hP _ _ (Step.addMember hadd) h

theorem keeps_settle (hP : p.Closed P) (hdemand : ∀ name, Keeps P (onDemand name)) (id : AccessorId) :
    Keeps P (settle onDemand id) := by
  unfold settle
  refine Keeps.env.bind fun env => ?_
  cases env.accessor? id with
  | none => exact Keeps.pure _
  | some a =>
    have hsettle : Keeps P (modifyEnv (·.settleReturn id)) :=
      Keeps.modifyEnv fun _ h => hP _ _ (Step.settleReturn id) h
    refine (hdemand _).bind fun _ => Keeps.ite (fun _ => ?_) fun _ => hsettle
    exact Keeps.env.bind fun _ => (Keeps.note _).bind fun _ => hsettle

theorem keeps_addCase (hP : p.Closed P) (member : String) (row : Row) (c : ColumnMapping) :
    Keeps P (addCase m member row c) := by
  unfold addCase
  refine Keeps.env.bind fun env => ?_
  cases env.accessor? (m.accessorId c) with
  | none => exact Keeps.pure _
  | some a =>
    refine Keeps.ite (fun _ => ?_) fun _ => Keeps.pure _
    cases row.cells.lookup c.column with
    | none => exact Keeps.throw _
    | some raw =>
      refine Keeps.ite (fun _ => Keeps.note _) fun _ => ?_
      refine (Keeps.liftExcept _).bind fun expression => ?_
      exact Keeps.modifyEnv fun _ h => hP _ _ (Step.setCase a.id member expression) h

theorem keeps_fillDeclared (hP : p.Closed P) (hdemand : ∀ name, Keeps P (onDemand name)) :
    Keeps P (fillDeclared onDemand m d) := by
  unfold fillDeclared
  refine (Keeps.liftExcept _).bind fun keyType => ?_
  refine (Keeps.forM fun row _ => keeps_addRow hP _ row).bind fun _ => ?_
  refine (Keeps.forM fun c _ => keeps_settle hP hdemand _).bind fun _ => ?_
  exact Keeps.forM fun row _ => Keeps.forM fun c _ => keeps_addCase hP _ row c

theorem keeps_compileTable (hP : p.Closed P) (hbacked : ∀ env, P env → Backed env)
    (hm : m ∈ p.mappings) (hdemand : ∀ name, Keeps P (onDemand name)) :
    Keeps P (compileTable onDemand m) := by
  unfold compileTable TableMapping.requireData
  refine (Keeps.note _).bind fun _ => ?_
  intro s hs
  rw [ends_bind]
  cases hdata : m.data with
  | none => exact ends_liftExcept_error.mpr hs
  | some d =>
    rw [ends_liftExcept_ok]
    exact ((keeps_declare hP hbacked hm hdata).bind fun _ => keeps_fillDeclared hP hdemand) s hs

theorem keeps_requireWithin (hP : p.Closed P) (hbacked : ∀ env, P env → Backed env) (room : Nat)
    (name : String) : Keeps P (requireWithin p room name) := by
  induction room generalizing name with
  | zero => exact Keeps.pure _
  | succ room ih =>
    unfold requireWithin
    cases hm : p.mapping? name with
    | none => exact Keeps.pure _
    | some m =>
      refine Keeps.get.bind fun s => Keeps.ite (fun _ => Keeps.pure _) fun _ => ?_
      refine Keeps.ite (fun _ => Keeps.throw _) fun _ => ?_
      have htable := keeps_compileTable hP hbacked (mapping?_eq_some.mp hm).1 ih
      exact htable.during.bind fun _ => Keeps.complete

theorem keeps_call (hP : p.Closed P) (hbacked : ∀ env, P env → Backed env) (call : Call) :
    Keeps P (call.run p) := by
  cases call with
  | require name => exact keeps_requireWithin hP hbacked _ name
  | compileAll =>
    unfold Call.run compileAll
    refine (Keeps.forM fun name _ => keeps_requireWithin hP hbacked _ name).bind fun _ => ?_
    exact Keeps.get.bind fun _ => Keeps.note _

/-- What each change keeps holds of the environment of every session, whatever the calls were. -/
theorem session_keeps (hP : p.Closed P) (hbacked : ∀ env, P env → Backed env) (hstart : P {})
    (calls : List Call) : P (p.session calls).env := by
  suffices h : ∀ s : Session, P s.env →
      P (calls.foldl (fun s call => after (call.run p) s) s).env from h {} hstart
  induction calls with
  | nil => exact fun s hs => hs
  | cons call calls ih =>
    intro s hs
    exact ih _ ((keeps_call hP hbacked call).after hs)

end closed

end Plan

end LookupEnums
