import LookupEnums.Proofs.TypeEnv.Lookup

/-! # Calls on one environment

Calls come one after the other, and a hook makes calls of its own in the middle of settling an
accessor. Callers keep the nodes they were given, so a call may be about a node whose name stands for
another one by then. Over all such calls names stay in their places, nodes are replaced by nodes of
later stages only, and what an accessor is settled with is the node bound at that moment.

A node is told by its name and its stage. That is enough, as a node that was replaced never comes
back: no two bindings of a name make the same node.
-/
namespace LookupEnums

inductive Stage.Before : Stage → Stage → Prop
  | resolved : Before .unresolved .external
  | defined : Before .unresolved .internal
  | promoted : Before .external .internal

theorem Stage.Before.trans {s t u : Stage} (h : s.Before t) (h' : t.Before u) : s.Before u := by
  cases h <;> cases h'
  exact .defined

theorem Stage.Before.asymm {s t : Stage} (h : s.Before t) : ¬ t.Before s := by
  intro h'
  cases h <;> cases h'

theorem Stage.Before.ne_unresolved {s t : Stage} (h : s.Before t) : t ≠ .unresolved := by
  cases h <;> simp

/-- A node and what its name stands for later: the same node or one of a later stage. -/
def TypeNode.Onward (n later : TypeNode) : Prop :=
  later = n ∨ later.id = n.id ∧ n.stage.Before later.stage

namespace TypeNode.Onward
variable {n m k : TypeNode}

theorem trans (h : n.Onward m) (h' : m.Onward k) : n.Onward k := by
  obtain rfl | ⟨hid, hstage⟩ := h
  · exact h'
  obtain rfl | ⟨hid', hstage'⟩ := h'
  · exact .inr ⟨hid, hstage⟩
  · exact .inr ⟨hid'.trans hid, hstage.trans hstage'⟩

theorem antisymm (h : n.Onward m) (h' : m.Onward n) : m = n := by
  obtain rfl | ⟨-, hstage⟩ := h
  · rfl
  obtain hsame | ⟨-, hstage'⟩ := h'
  · exact hsame.symm
  · exact absurd hstage' hstage.asymm

theorem name_eq (h : n.Onward m) : m.name = n.name := by
  obtain rfl | ⟨hid, -⟩ := h
  · rfl
  · exact congrArg TypeId.name hid

end TypeNode.Onward

def EnumType.Grows (t later : EnumType) : Prop :=
  ∃ added, later = { t with accessorNames := t.accessorNames ++ added }

namespace EnumType.Grows

theorem refl (t : EnumType) : t.Grows t :=
  ⟨[], by rw [List.append_nil]⟩

theorem trans {t u v : EnumType} (h : t.Grows u) (h' : u.Grows v) : t.Grows v := by
  obtain ⟨added, rfl⟩ := h
  obtain ⟨added', rfl⟩ := h'
  exact ⟨added ++ added', by simp⟩

end EnumType.Grows

namespace TypeEnv
variable {env earlier later : TypeEnv}

def names (env : TypeEnv) : List String :=
  env.stages.map (·.1)

/-- What was there before is still there. -/
structure Forward (earlier later : TypeEnv) : Prop where
  names : earlier.names <+: later.names
  distinct : earlier.names.Nodup → later.names.Nodup
  nodes : ∀ {n : TypeNode}, earlier.lookup? n.name = some n →
    ∃ now, later.lookup? n.name = some now ∧ n.Onward now
  enums : ∀ {id : TypeId} {t : EnumType}, earlier.enum? id = some t →
    ∃ u, later.enum? id = some u ∧ t.Grows u
  accessors : ∀ {id : AccessorId} {a : Accessor}, earlier.accessor? id = some a →
    ∃ n, n.name = a.returns.name ∧ later.accessor? id = some { a with returns := n }

theorem lookup?_eq_some {name : String} {n : TypeNode} :
    env.lookup? name = some n ↔ env.stage? name = some n.stage ∧ n.id = ⟨name, none⟩ := by
  unfold lookup?
  rw [Option.map_eq_some_iff]
  constructor
  · rintro ⟨stage, hstage, rfl⟩
    exact ⟨hstage, rfl⟩
  · rintro ⟨hstage, hid⟩
    exact ⟨n.stage, hstage, by rw [nodeAt, ← hid]⟩

namespace Forward

theorem refl (env : TypeEnv) : Forward env env where
  names := List.prefix_refl _
  distinct h := h
  nodes h := ⟨_, h, .inl rfl⟩
  enums {_ t} h := ⟨t, h, .refl t⟩
  accessors h := ⟨_, rfl, h⟩

theorem trans {middle : TypeEnv} (h : Forward earlier middle) (h' : Forward middle later) :
    Forward earlier later where
  names := h.names.trans h'.names
  distinct hd := h'.distinct (h.distinct hd)
  nodes hn := by
    obtain ⟨m, hm, honward⟩ := h.nodes hn
    obtain ⟨now, hnow, honward'⟩ := h'.nodes (honward.name_eq ▸ hm)
    exact ⟨now, honward.name_eq ▸ hnow, honward.trans honward'⟩
  enums ht := by
    obtain ⟨u, hu, hgrows⟩ := h.enums ht
    obtain ⟨v, hv, hgrows'⟩ := h'.enums hu
    exact ⟨v, hv, hgrows.trans hgrows'⟩
  accessors ha := by
    obtain ⟨n, hn, hb⟩ := h.accessors ha
    obtain ⟨n', hn', hc⟩ := h'.accessors hb
    exact ⟨n', hn'.trans hn, hc⟩

theorem of_stages (hstages : later.stages = earlier.stages)
    (enums : ∀ {id : TypeId} {t : EnumType}, earlier.enum? id = some t →
      ∃ u, later.enum? id = some u ∧ t.Grows u)
    (accessors : ∀ {id : AccessorId} {a : Accessor}, earlier.accessor? id = some a →
      ∃ n, n.name = a.returns.name ∧ later.accessor? id = some { a with returns := n }) :
    Forward earlier later where
  names := by
    have hnames : later.names = earlier.names := by rw [TypeEnv.names, TypeEnv.names, hstages]
    exact hnames ▸ List.prefix_refl _
  distinct h := by rwa [TypeEnv.names, hstages]
  nodes {n} h := ⟨n, by rwa [lookup?, stage?, hstages], .inl rfl⟩
  enums := enums
  accessors := accessors

/-- Binding a name at a stage that all its earlier ones come before. -/
theorem bind {name : String} {stage : Stage}
    (h : ∀ old, env.stage? name = some old → old.Before stage) : Forward env (env.bind name stage) where
  names := by
    rw [TypeEnv.names, TypeEnv.names, TypeEnv.bind, map_fst_bindIn]
    split
    · exact List.prefix_refl _
    · exact List.prefix_append _ _
  distinct hd := nodup_bindIn hd
  nodes {n} hn := by
    obtain ⟨hstage, hid⟩ := lookup?_eq_some.mp hn
    by_cases hname : n.name = name
    · refine ⟨nodeAt stage n.name, ?_, .inr ⟨hid.symm, h _ (hname ▸ hstage)⟩⟩
      rw [lookup?_eq_some, stage?_bind, if_pos hname]
      exact ⟨rfl, rfl⟩
    · refine ⟨n, ?_, .inl rfl⟩
      rw [lookup?_eq_some, stage?_bind, if_neg hname]
      exact ⟨hstage, hid⟩
  enums {_ t} ht := ⟨t, ht, .refl t⟩
  accessors ha := ⟨_, rfl, ha⟩

theorem reference (env : TypeEnv) (name : String) : Forward env (env.reference name) := by
  unfold TypeEnv.reference
  split
  next => exact refl env
  next hnone => exact bind fun old hold => by simp [hnone] at hold

theorem resolve (env : TypeEnv) (name : String) : Forward env (env.resolve name) := by
  unfold TypeEnv.resolve
  split
  next => exact refl env
  next => exact refl env
  next hinternal hexternal =>
    refine bind fun old hold => ?_
    cases old with
    | unresolved => exact .resolved
    | external => exact absurd hold hexternal
    | internal => exact absurd hold hinternal

theorem define (env : TypeEnv) (name : String) (attributes : List String) :
    Forward env (env.define name attributes) := by
  by_cases hinternal : env.stage? name = some .internal
  · rw [define_of_internal env hinternal]
    exact refl env
  · rw [define_of_open env hinternal]
    have hbind : Forward env (env.bind name .internal) := by
      refine bind fun old hold => ?_
      cases old with
      | unresolved => exact .defined
      | external => exact .promoted
      | internal => exact absurd hold hinternal
    refine hbind.trans (of_stages rfl ?_ fun ha => ⟨_, rfl, ha⟩)
    intro id t ht
    refine ⟨t, ?_, .refl t⟩
    rw [← define_of_open env hinternal, enum?_define, if_neg hinternal,
      show env.enum? id = some t from ht]
    rfl

theorem declare (env : TypeEnv) (a : Accessor) : Forward env (env.declare a) := by
  cases hknown : env.accessor? a.id with
  | some b =>
    rw [declare_of_known env hknown]
    exact refl env
  | none =>
    rw [declare_of_new env hknown]
    refine of_stages rfl ?_ ?_
    · intro id t ht
      have hid : ∀ u : EnumType, u.id = a.owner →
          { u with accessorNames := u.accessorNames ++ [a.name] }.id = a.owner := fun _ hu => hu
      have hsame : ({ env with accessors := env.accessors ++ [a] } : TypeEnv).enum? id = some t := ht
      rw [enum?_updateEnum _ hid]
      by_cases hid : id = a.owner
      · subst hid
        exact ⟨_, by rw [if_pos rfl, hsame]; rfl, [a.name], rfl⟩
      · exact ⟨t, by rw [if_neg hid, hsame], .refl t⟩
    · intro id b hb
      refine ⟨_, rfl, ?_⟩
      change (env.accessors ++ [a]).find? (·.id = id) = some b
      rw [List.find?_append, show env.accessors.find? (·.id = id) = some b from hb]
      rfl

theorem ground (env : TypeEnv) (n : TypeNode) : Forward env (env.ground n) := by
  unfold TypeEnv.ground
  split
  · exact resolve env n.name
  · exact refl env

theorem updateReturns {id : AccessorId} {a : Accessor} (ha : env.accessor? id = some a)
    {n : TypeNode} (hname : n.name = a.returns.name) :
    Forward env (env.updateAccessor id fun b => { b with returns := n }) := by
  refine of_stages rfl (fun ht => ⟨_, ht, .refl _⟩) ?_
  intro other b hb
  have hid : ∀ c : Accessor, c.id = id → { c with returns := n }.id = id := fun _ hc => hc
  rw [accessor?_updateAccessor env hid]
  by_cases hid : other = id
  · subst hid
    obtain rfl : a = b := by simpa [ha] using hb
    exact ⟨n, hname, by simp [ha]⟩
  · exact ⟨_, rfl, by simpa [hid] using hb⟩

end Forward

/-- The node was bound to its name, and later ones were at most. -/
def Knows (env : TypeEnv) (n : TypeNode) : Prop :=
  ∃ now, env.lookup? n.name = some now ∧ n.Onward now

namespace Knows
variable {n : TypeNode}

theorem stage (h : env.Knows n) :
    ∃ stage, env.stage? n.name = some stage ∧ (stage = n.stage ∨ n.stage.Before stage) := by
  obtain ⟨now, hnow, honward⟩ := h
  refine ⟨now.stage, (lookup?_eq_some.mp hnow).1, ?_⟩
  obtain rfl | ⟨-, hbefore⟩ := honward
  · exact .inl rfl
  · exact .inr hbefore

theorem eq_nodeAt (h : env.Knows n) : n = nodeAt n.stage n.name := by
  obtain ⟨now, hnow, honward⟩ := h
  have hid : n.id = ⟨n.name, none⟩ := by
    obtain rfl | ⟨hid, -⟩ := honward
    · exact (lookup?_eq_some.mp hnow).2
    · exact hid ▸ (lookup?_eq_some.mp hnow).2
  rw [nodeAt, ← hid]

/-- Grounding resolves the name, whatever has become of it since. -/
theorem ground_eq (h : env.Knows n) : env.ground n = env.resolve n.name := by
  obtain ⟨stage, hstage, hn⟩ := h.stage
  unfold ground
  split
  next => rfl
  next hresolved =>
    unfold resolve
    cases stage with
    | unresolved =>
      obtain hsame | hbefore := hn
      · exact absurd hsame.symm hresolved
      · exact absurd rfl hbefore.ne_unresolved
    | external => rw [hstage]
    | internal => rw [hstage]

theorem groundNode_eq (h : env.Knows n) : env.groundNode n =
    nodeAt (if env.stage? n.name = some .internal then .internal else .external) n.name := by
  obtain ⟨stage, hstage, hn⟩ := h.stage
  have heq := h.eq_nodeAt
  unfold groundNode
  cases hs : n.stage with
  | unresolved => cases stage <;> simp [hstage]
  | external =>
    rw [hs] at hn heq
    obtain rfl | hbefore := hn
    · simpa [hstage] using heq
    · cases hbefore
      simp [hstage]
  | internal =>
    rw [hs] at hn heq
    obtain rfl | hbefore := hn
    · simpa [hstage] using heq
    · cases hbefore

/-- A node grounds to what its name is bound to from then on. -/
theorem lookup?_ground (h : env.Knows n) :
    (env.ground n).lookup? n.name = some (env.groundNode n) := by
  rw [lookup?_eq_some, h.groundNode_eq, h.ground_eq, stage?_resolve, if_pos rfl]
  exact ⟨rfl, rfl⟩

theorem groundNode_stage (h : env.Knows n) : (env.groundNode n).stage ≠ .unresolved := by
  rw [h.groundNode_eq]
  unfold nodeAt
  split <;> simp

theorem groundNode_name (h : env.Knows n) : (env.groundNode n).name = n.name := by
  rw [h.groundNode_eq]
  rfl

/-- Whether a node is read before calls on its name or after them makes no difference. -/
theorem ground_congr {m : TypeNode} (h : env.Knows n) (h' : env.Knows m) (hname : m.name = n.name) :
    env.ground m = env.ground n ∧ env.groundNode m = env.groundNode n := by
  rw [h.ground_eq, h'.ground_eq, h.groundNode_eq, h'.groundNode_eq, hname]
  exact ⟨rfl, rfl⟩

end Knows

section Settling
variable {id : AccessorId} {a : Accessor}

theorem resolveReturn_of_accessor (onDemand : String → TypeEnv → TypeEnv)
    (ha : env.accessor? id = some a) :
    env.resolveReturn onDemand id = (onDemand a.returns.name env).settleReturn id := by
  unfold resolveReturn
  rw [ha]

theorem settleReturn_of_accessor (ha : env.accessor? id = some a) : env.settleReturn id =
    (env.ground a.returns).updateAccessor id fun b => { b with returns := env.groundNode a.returns } := by
  unfold settleReturn
  rw [ha]

theorem accessor?_ground (n : TypeNode) (id : AccessorId) :
    (env.ground n).accessor? id = env.accessor? id := by
  rw [accessor?, accessors_ground]
  rfl

theorem accessor?_settleReturn (ha : env.accessor? id = some a) (other : AccessorId) :
    (env.settleReturn id).accessor? other =
      if other = id then some { a with returns := env.groundNode a.returns }
      else env.accessor? other := by
  have hid : ∀ b : Accessor, b.id = id → { b with returns := env.groundNode a.returns }.id = id :=
    fun _ h => h
  rw [settleReturn_of_accessor ha, accessor?_updateAccessor _ hid, accessor?_ground,
    accessor?_ground, ha]
  rfl

end Settling

/-- The node was bound at some moment. -/
def Met (history : List TypeEnv) (n : TypeNode) : Prop :=
  ∃ env ∈ history, env.lookup? n.name = some n

/-- The calls that lead from one history to another, newest environments first. What they are about
was met before. -/
inductive Calls : List TypeEnv → List TypeEnv → Prop
  | none {h : List TypeEnv} : Calls h h
  | reference {h past : List TypeEnv} {env : TypeEnv} (calls : Calls h (env :: past)) (name : String) :
      Calls h (env.reference name :: env :: past)
  | resolve {h past : List TypeEnv} {env : TypeEnv} (calls : Calls h (env :: past)) (name : String) :
      Calls h (env.resolve name :: env :: past)
  | define {h past : List TypeEnv} {env : TypeEnv} (calls : Calls h (env :: past)) (name : String)
      (attributes : List String) : Calls h (env.define name attributes :: env :: past)
  | declare {h past : List TypeEnv} {env : TypeEnv} (calls : Calls h (env :: past))
      {owner : String} {returns : TypeNode} (name : String) (coercion nullable : Bool)
      (ownerMet : Met (env :: past) (nodeAt .internal owner)) (returnsMet : Met (env :: past) returns) :
      Calls h (env.declare ⟨⟨owner, name⟩, ⟨owner, Option.none⟩, returns, coercion, nullable, []⟩ ::
        env :: past)
  | ground {h past : List TypeEnv} {env : TypeEnv} (calls : Calls h (env :: past)) {n : TypeNode}
      (met : Met (env :: past) n) : Calls h (env.ground n :: env :: past)
  /-- The hook makes calls of its own before the accessor is settled. -/
  | resolveReturn {h past past' : List TypeEnv} {env : TypeEnv} (calls : Calls h (env :: past))
      {id : AccessorId} {a : Accessor} (known : env.accessor? id = some a)
      {onDemand : String → TypeEnv → TypeEnv}
      (hook : Calls (env :: past) (onDemand a.returns.name env :: past')) :
      Calls h (env.resolveReturn onDemand id :: onDemand a.returns.name env :: past')

namespace Calls
variable {h h' h'' past past' : List TypeEnv}

/-- Calls after calls; so also what is left of a hook that was interrupted. -/
theorem trans (first : Calls h h') (second : Calls h' h'') : Calls h h'' := by
  induction second with
  | none => exact first
  | reference _ name ih => exact (ih first).reference name
  | resolve _ name ih => exact (ih first).resolve name
  | define _ name attributes ih => exact (ih first).define name attributes
  | declare _ name coercion nullable ownerMet returnsMet ih =>
    exact (ih first).declare name coercion nullable ownerMet returnsMet
  | ground _ met ih => exact (ih first).ground met
  | resolveReturn _ known hook ih _ => exact (ih first).resolveReturn known hook

theorem suffix (calls : Calls h h') : h <:+ h' := by
  induction calls with
  | none => exact List.suffix_refl _
  | reference _ _ ih | resolve _ _ ih | define _ _ _ ih | declare _ _ _ _ _ _ ih | ground _ _ ih =>
    exact ih.trans (List.suffix_cons _ _)
  | resolveReturn _ _ _ ih ihHook => exact (ih.trans ihHook).trans (List.suffix_cons _ _)

end Calls

structure Coherent (history : List TypeEnv) : Prop where
  forward : history.Pairwise fun later earlier => Forward earlier later
  distinct : ∀ env ∈ history, env.names.Nodup
  returns : ∀ env ∈ history, ∀ {id : AccessorId} {a : Accessor}, env.accessor? id = some a →
    Met history a.returns

theorem Met.mono {history history' : List TypeEnv} {n : TypeNode} (h : Met history n)
    (hsub : history ⊆ history') : Met history' n := by
  obtain ⟨env, henv, hn⟩ := h
  exact ⟨env, hsub henv, hn⟩

namespace Coherent
variable {env next : TypeEnv} {past : List TypeEnv} {id : AccessorId} {a : Accessor}

theorem empty : Coherent [TypeEnv.empty] where
  forward := List.pairwise_singleton _ _
  distinct := by simp [names, TypeEnv.empty]
  returns := by simp [accessor?, TypeEnv.empty]

theorem forward_of_mem (h : Coherent (env :: past)) (he : earlier ∈ env :: past) :
    Forward earlier env := by
  obtain rfl | he := List.mem_cons.mp he
  · exact .refl _
  · exact (List.pairwise_cons.mp h.forward).1 earlier he

/-- Nodes from before are known, however stale. -/
theorem knows (h : Coherent (env :: past)) {n : TypeNode} (hn : Met (env :: past) n) :
    env.Knows n := by
  obtain ⟨earlier, he, hlookup⟩ := hn
  exact (h.forward_of_mem he).nodes hlookup

theorem cons (h : Coherent (env :: past)) (hforward : Forward env next)
    (hreturns : ∀ {id : AccessorId} {a : Accessor}, next.accessor? id = some a →
      Met (next :: env :: past) a.returns) : Coherent (next :: env :: past) where
  forward := List.pairwise_cons.mpr ⟨fun _ he => (h.forward_of_mem he).trans hforward, h.forward⟩
  distinct e he := by
    obtain rfl | he := List.mem_cons.mp he
    · exact hforward.distinct (h.distinct env List.mem_cons_self)
    · exact h.distinct e he
  returns e he _ _ ha := by
    obtain rfl | he := List.mem_cons.mp he
    · exact hreturns ha
    · exact (h.returns e he ha).mono (List.subset_cons_self _ _)

theorem cons_of_accessors (h : Coherent (env :: past)) (hforward : Forward env next)
    (haccessors : next.accessors = env.accessors) : Coherent (next :: env :: past) := by
  refine h.cons hforward fun {id a} ha => ?_
  have ha : env.accessor? id = some a := by rwa [accessor?, haccessors] at ha
  exact (h.returns env List.mem_cons_self ha).mono (List.subset_cons_self _ _)

theorem declare (h : Coherent (env :: past)) (hmet : Met (env :: past) a.returns) :
    Coherent (env.declare a :: env :: past) := by
  refine h.cons (.declare env a) fun {id b} hb => ?_
  have hcases : env.accessor? id = some b ∨ b = a := by
    cases hknown : env.accessor? a.id with
    | some c =>
      rw [declare_of_known env hknown] at hb
      exact .inl hb
    | none =>
      rw [declare_of_new env hknown] at hb
      have hb : (env.accessors ++ [a]).find? (·.id = id) = some b := hb
      rw [List.find?_append, Option.or_eq_some_iff] at hb
      obtain hold | ⟨-, hnew⟩ := hb
      · exact .inl hold
      · exact .inr (List.mem_singleton.mp (List.mem_of_find?_eq_some hnew))
  obtain hold | rfl := hcases
  · exact (h.returns env List.mem_cons_self hold).mono (List.subset_cons_self _ _)
  · exact hmet.mono (List.subset_cons_self _ _)

/-- Settling an accessor binds its name and records the node bound. -/
theorem settled (h : Coherent (env :: past)) (ha : env.accessor? id = some a) :
    Coherent (env.settleReturn id :: env :: past) := by
  have hknows := h.knows (h.returns env List.mem_cons_self ha)
  have hsame : (env.ground a.returns).accessor? id = some a := (accessor?_ground _ id).trans ha
  have hforward : Forward env (env.settleReturn id) := by
    rw [settleReturn_of_accessor ha]
    exact (Forward.ground env a.returns).trans
      (Forward.updateReturns hsame hknows.groundNode_name)
  refine h.cons hforward fun {other b} hb => ?_
  rw [accessor?_settleReturn ha] at hb
  split at hb
  · obtain rfl := Option.some.inj hb
    refine ⟨_, List.mem_cons_self, ?_⟩
    rw [settleReturn_of_accessor ha]
    exact hknows.groundNode_name ▸ hknows.lookup?_ground
  · exact (h.returns env List.mem_cons_self hb).mono (List.subset_cons_self _ _)

end Coherent

/-- Settling an accessor that was `a` before the hook comes to `n`. -/
structure SettlesWith (onDemand : String → TypeEnv → TypeEnv) (env : TypeEnv) (id : AccessorId)
    (a : Accessor) (n : TypeNode) : Prop where
  /-- The node read before the hook is grounded after it; this is what the call returns. -/
  grounded : (onDemand a.returns.name env).groundNode a.returns = n
  resolved : n.stage ≠ .unresolved
  leaves : env.resolveReturn onDemand id =
    ((onDemand a.returns.name env).ground a.returns).updateAccessor id fun b => { b with returns := n }
  bound : (env.resolveReturn onDemand id).lookup? a.returns.name = some n
  recorded : (env.resolveReturn onDemand id).accessor? id = some { a with returns := n }

namespace Calls
variable {env : TypeEnv} {h h' past past' : List TypeEnv} {id : AccessorId} {a : Accessor}

theorem accessor?_after_hook {after : TypeEnv} (hook : Calls (env :: past) (after :: past'))
    (hcoherent : Coherent (after :: past')) (ha : env.accessor? id = some a) :
    ∃ n, n.name = a.returns.name ∧ after.accessor? id = some { a with returns := n } :=
  (hcoherent.forward_of_mem (hook.suffix.subset List.mem_cons_self)).accessors ha

theorem coherent (calls : Calls h h') (hstart : Coherent h) : Coherent h' := by
  -- the calls of a hook start from a coherent history and so leave one to settle in
  induction calls with
  | none => exact hstart
  | reference _ name ih =>
    exact (ih hstart).cons_of_accessors (.reference _ name) (accessors_reference _ name)
  | resolve _ name ih =>
    exact (ih hstart).cons_of_accessors (.resolve _ name) (accessors_resolve _ name)
  | define _ name attributes ih =>
    exact (ih hstart).cons_of_accessors (.define _ name attributes) (accessors_define _ name attributes)
  | declare _ _ _ _ _ returnsMet ih => exact (ih hstart).declare returnsMet
  | @ground _ _ env _ n _ ih =>
    exact (ih hstart).cons_of_accessors (.ground env n) (accessors_ground env n)
  | @resolveReturn _ _ _ env _ id a known onDemand hook ih ihHook =>
    have hafter := ihHook (ih hstart)
    obtain ⟨n, -, hn⟩ := hook.accessor?_after_hook hafter known
    rw [resolveReturn_of_accessor onDemand known]
    exact hafter.settled hn

/-- A call that settles an accessor returns and records the node bound to the name then, also where
the hook has promoted the name or settled the same accessor since the accessor was read. -/
theorem settlesWith {onDemand : String → TypeEnv → TypeEnv} (hstart : Coherent (env :: past))
    (ha : env.accessor? id = some a)
    (hook : Calls (env :: past) (onDemand a.returns.name env :: past')) :
    ∃ n, SettlesWith onDemand env id a n := by
  have hafter := hook.coherent hstart
  obtain ⟨m, hm, hb⟩ := hook.accessor?_after_hook hafter ha
  -- the node read before the hook is as good as the one that is there after it
  have hmet : Met (env :: past) a.returns := hstart.returns env List.mem_cons_self ha
  have hknows := hafter.knows (hmet.mono hook.suffix.subset)
  have hknows' := hafter.knows (hafter.returns _ List.mem_cons_self hb)
  obtain ⟨hground, hnode⟩ := hknows.ground_congr hknows' hm
  have heq : env.resolveReturn onDemand id =
      ((onDemand a.returns.name env).ground a.returns).updateAccessor id
        fun b => { b with returns := (onDemand a.returns.name env).groundNode a.returns } := by
    rw [resolveReturn_of_accessor onDemand ha, ← hground, ← hnode]
    exact settleReturn_of_accessor hb
  refine ⟨_, rfl, hknows.groundNode_stage, heq, ?_, ?_⟩
  · rw [heq]
    exact hknows.lookup?_ground
  · have hrecorded := accessor?_settleReturn hb id
    rw [if_pos rfl, hnode] at hrecorded
    rw [resolveReturn_of_accessor onDemand ha]
    exact hrecorded

end Calls

/-- Over any calls, those of hooks included: names stay, in the order of their arrival; what a name
stands for moves forward only, and a node that was replaced never comes back; each accessor is
settled with the node bound to its name at that moment, which is resolved. -/
theorem calls_move_forward {env : TypeEnv} {past : List TypeEnv}
    (calls : Calls [TypeEnv.empty] (env :: past)) :
    (∀ e ∈ env :: past, e.names.Nodup) ∧
      (env :: past).Pairwise (fun later earlier => Forward earlier later) ∧
      (∀ {e₁ e₂ e₃ : TypeEnv} {n : TypeNode}, List.Sublist [e₃, e₂, e₁] (env :: past) →
        e₁.lookup? n.name = some n → e₃.lookup? n.name = some n → e₂.lookup? n.name = some n) ∧
      ∀ {id : AccessorId} {a : Accessor} (onDemand : String → TypeEnv → TypeEnv)
        (past' : List TypeEnv), env.accessor? id = some a →
        Calls (env :: past) (onDemand a.returns.name env :: past') →
        ∃ n, SettlesWith onDemand env id a n := by
  have hcoherent := calls.coherent .empty
  refine ⟨hcoherent.distinct, hcoherent.forward, ?_, ?_⟩
  · intro e₁ e₂ e₃ n hsub hfirst hlast
    have hpairs := hcoherent.forward.sublist hsub
    simp only [List.pairwise_cons, List.mem_cons, List.not_mem_nil, or_false, forall_eq_or_imp,
      forall_eq] at hpairs
    obtain ⟨now, hnow, honward⟩ := hpairs.2.1.nodes hfirst
    obtain ⟨last, hlast', honward'⟩ := hpairs.1.1.nodes (honward.name_eq ▸ hnow)
    rw [honward.name_eq, hlast] at hlast'
    obtain rfl := Option.some.inj hlast'
    rw [hnow, honward.antisymm honward']
  · intro id a onDemand past' ha hook
    exact hook.settlesWith hcoherent ha

def paint : AccessorId :=
  ⟨"Car", "Paint"⟩

def workshop : TypeEnv :=
  ((TypeEnv.empty.reference "Colour").define "Car" []).declare
    ⟨paint, ⟨"Car", none⟩, nodeAt .unresolved "Colour", false, false, []⟩

def repaint (name : String) (env : TypeEnv) : TypeEnv :=
  ((env.resolve name).resolveReturn (fun _ env => env) paint).define name []

theorem calls_move_forward_workshop : ∃ past past',
    Calls [TypeEnv.empty] (workshop :: past) ∧
      Calls (workshop :: past) (repaint "Colour" workshop :: past') ∧
      workshop.accessor? paint = some ⟨paint, ⟨"Car", none⟩, nodeAt .unresolved "Colour", false, false, []⟩ ∧
      (workshop.resolveReturn repaint paint).lookup? "Colour" = some (nodeAt .internal "Colour") ∧
      (workshop.resolveReturn repaint paint).accessor? paint =
        some ⟨paint, ⟨"Car", none⟩, nodeAt .internal "Colour", false, false, []⟩ := by
  have hcalls : Calls [TypeEnv.empty] [workshop, (TypeEnv.empty.reference "Colour").define "Car" [],
      TypeEnv.empty.reference "Colour", TypeEnv.empty] :=
    .declare (.define (.reference .none "Colour") "Car" []) "Paint" false false
      ⟨_, List.mem_cons_self, rfl⟩ ⟨_, List.mem_cons_self, rfl⟩
  have hknown : workshop.accessor? paint =
      some ⟨paint, ⟨"Car", none⟩, nodeAt .unresolved "Colour", false, false, []⟩ := rfl
  have hsettled : (workshop.resolve "Colour").accessor? paint =
      some ⟨paint, ⟨"Car", none⟩, nodeAt .unresolved "Colour", false, false, []⟩ := rfl
  have hhook (past : List TypeEnv) :
      ∃ past', Calls (workshop :: past) (repaint "Colour" workshop :: past') :=
    ⟨_, .define (.resolveReturn (.resolve .none "Colour") hsettled .none) "Colour" []⟩
  obtain ⟨past', hhook⟩ := hhook _
  obtain ⟨-, -, -, hsettles⟩ := calls_move_forward hcalls
  obtain ⟨n, hn⟩ := hsettles repaint past' hknown hhook
  obtain rfl : n = nodeAt .internal "Colour" := hn.grounded ▸ rfl
  exact ⟨_, past', hcalls, hhook, hknown, hn.bound, hn.recorded⟩

end TypeEnv

end LookupEnums
