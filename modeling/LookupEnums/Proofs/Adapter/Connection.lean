import LookupEnums.Adapter.Connection
import LookupEnums.Proofs.Run.Agreeing

/-! # Connecting and reading

Connecting may make an empty file where the address leads to none. Reading leaves the files as they are
unless a log stands beside the database, which is then put into effect; what becomes of the two files in
that case is not told here. What an adapter answers is told by the files that the address leads to.
-/
namespace LookupEnums
open LookupEnums.Tree Run

def Adapter.location? (home : Location) (url : String) : Option Location :=
  match (Address.parse url).bind (·.target?) with
  | .ok (some (.file path _)) => some (Store.plainLocation home path)
  | _ => none

namespace AdapterConfig

/-- Whether statements are shown among the output as they are executed. -/
def echo : AdapterConfig → Bool
  | address _ _ echo => echo
  | file _ echo => echo

/-- A log or the index of one stands beside the database. Reading puts a log into effect, and either may
be gone afterwards. -/
def HasLog (c : AdapterConfig) (t : Tree) : Prop :=
  ∃ l, Adapter.location? t.working c.url = some l ∧
    ∃ ending ∈ [Store.undoEnding, Store.changesEnding, "-shm"],
      (t.node? (Store.beside l ending)).isSome

end AdapterConfig

/-- The empty file that connecting makes where a configuration asks for a missing one. -/
def IsDatabaseFile (home : Location) (c : AdapterConfig) (l : Location) (n : FileNode) : Prop :=
  n = .file (.bytes .empty) ∧ ∃ address path, Address.parse c.url = .ok address ∧
    address.target? = .ok (some (.file path .create)) ∧ l = Store.plainLocation home path

namespace Store

theorem grows_openFile {l : Location} {mode : FileMode} {t t' : Tree} {store : Store}
    (h : openFile l mode t = some (store, t')) :
    Grows (fun a n => n = .file (.bytes .empty) ∧ mode = .create ∧ a = l) t t' := by
  unfold openFile at h
  split at h
  next =>
    cases h
    exact Grows.refl t
  next hnone _ =>
    split at h
    next hcreate =>
      cases h
      exact Grows.put hnone ⟨rfl, hcreate, rfl⟩
    next => cases h
  next => cases h

end Store

namespace Adapter

theorem keepsTree_fail {α : Type} (e : AdapterError) : KeepsTree (fail e : Run α) := .throw _

theorem keepsTree_checkFile (c : AdapterConfig) : KeepsTree (checkFile c) := by
  cases c with
  | file path echo =>
    exact KeepsTree.tree.bind fun t => KeepsTree.ite (keepsTree_fail _) (.pure ())
  | address url schema echo => exact .pure ()

theorem keepsTree_readAddress (c : AdapterConfig) : KeepsTree (readAddress c) := by
  unfold readAddress
  split
  · exact .pure _
  · exact keepsTree_fail _
  · exact .throw _

theorem keepsTree_readTarget (c : AdapterConfig) (a : Address) : KeepsTree (readTarget c a) := by
  unfold readTarget
  split
  · exact .pure _
  · exact keepsTree_fail _
  · exact .throw _

theorem of_readAddress {c : AdapterConfig} {address : Address} {w : World}
    (h : ending (readAddress c) w = .ok address) : Address.parse c.url = .ok address := by
  unfold readAddress at h
  split at h
  next a hparse =>
    cases h
    exact hparse
  next => cases h
  next => cases h

theorem of_readTarget {c : AdapterConfig} {address : Address} {target : Target} {w : World}
    (h : ending (readTarget c address) w = .ok target) : address.target? = .ok (some target) := by
  unfold readTarget at h
  split at h
  next found htarget =>
    cases h
    exact htarget
  next => cases h
  next => cases h

theorem grows_connect (a : Adapter) (w : World) :
    Grows (IsDatabaseFile w.tree.working a.config) w.tree (leaving a.connect w).tree := by
  unfold connect
  refine (keepsTree_checkFile a.config).grows_bind fun _ v _ hv => ?_
  rw [← hv]
  refine (keepsTree_readAddress a.config).grows_bind fun address v' haddress hv' => ?_
  rw [← hv']
  refine (keepsTree_readTarget a.config address).grows_bind fun target v'' htarget hv'' => ?_
  rw [← hv'']
  refine KeepsTree.tree.grows_bind fun t u ht hu => ?_
  cases ht
  rw [← hu]
  cases hopen : Store.ofTarget target u.tree with
  | none => exact (keepsTree_fail _).grows
  | some opened =>
    obtain ⟨store, tree⟩ := opened
    change Grows _ u.tree tree
    cases target with
    | memory =>
      cases hopen
      exact Grows.refl _
    | file path mode =>
      refine (Store.grows_openFile hopen).mono fun l n hnew => ?_
      obtain ⟨hempty, rfl, hplace⟩ := hnew
      exact ⟨hempty, address, path, of_readAddress haddress, of_readTarget htarget, hplace⟩

theorem keepsTree_fetch (a : Adapter) (table : String) (columns : List String) :
    KeepsTree (a.fetch table columns) := by
  unfold fetch
  have hconnected : KeepsTree a.connected := by
    unfold connected
    split
    · exact .pure _
    · exact keepsTree_fail _
  refine hconnected.bind fun store => KeepsTree.tree.bind fun t => ?_
  simp only
  split
  · exact .pure _
  · exact keepsTree_fail _
  · exact .throw _
  · exact .throw _

end Adapter

namespace Store
variable {home place : Location} {t₁ t₂ : Tree}

def IsAt (place : Location) : Store → Prop
  | memory => True
  | file l => l = place

theorem database?_congr (h : Agree home place t₁ t₂) {store : Store} (hat : store.IsAt place) :
    store.database? t₁ = store.database? t₂ := by
  cases store with
  | memory => rfl
  | file l =>
    cases hat
    exact h.database

/-- Opening looks at no more than what kinds of nodes there are. -/
theorem openFile_eq (l : Location) (mode : FileMode) (t : Tree) : openFile l mode t =
    match (t.node? l).map FileNode.isFile, (t.node? l.dropLast).map FileNode.isFile with
    | some true, _ => some (file l, t)
    | none, some false =>
      if mode = .create then some (file l, t.put l (.file (.bytes .empty))) else none
    | _, _ => none := by
  unfold openFile
  rcases t.node? l with _ | _ | _
  · rcases t.node? l.dropLast with _ | _ | _
    · rfl
    · rfl
    · rfl
  · rfl
  · rfl

theorem openFile_congr (h : Agree home place t₁ t₂) (mode : FileMode) :
    (openFile place mode t₁ = none ∧ openFile place mode t₂ = none) ∨
      ∃ u₁ u₂, openFile place mode t₁ = some (file place, u₁) ∧
        openFile place mode t₂ = some (file place, u₂) ∧ Agree home place u₁ u₂ := by
  rw [openFile_eq, openFile_eq, h.node, h.above]
  rcases hnode : (t₂.node? place).map FileNode.isFile with _ | _ | _
  · have hroot : place ≠ [] := fun hroot => by
      rw [hroot] at hnode
      cases hnode
    rcases (t₂.node? place.dropLast).map FileNode.isFile with _ | _ | _
    · exact .inl ⟨rfl, rfl⟩
    · by_cases hcreate : mode = .create
      · exact .inr ⟨_, _, if_pos hcreate, if_pos hcreate, h.put_empty hroot⟩
      · exact .inl ⟨if_neg hcreate, if_neg hcreate⟩
    · exact .inl ⟨rfl, rfl⟩
  · exact .inl ⟨rfl, rfl⟩
  · exact .inr ⟨t₁, t₂, rfl, rfl, h⟩

theorem ofTarget_congr (h : Agree home place t₁ t₂) {target : Target}
    (hplace : ∀ path mode, target = .file path mode → plainLocation home path = place) :
    (ofTarget target t₁ = none ∧ ofTarget target t₂ = none) ∨
      ∃ store u₁ u₂, ofTarget target t₁ = some (store, u₁) ∧ ofTarget target t₂ = some (store, u₂) ∧
        Agree home place u₁ u₂ ∧ store.IsAt place := by
  cases target with
  | memory => exact .inr ⟨memory, t₁, t₂, rfl, rfl, h, trivial⟩
  | file path mode =>
    simp only [ofTarget, h.left, h.right, hplace path mode rfl]
    rcases openFile_congr h mode with hnone | ⟨u₁, u₂, h₁, h₂, hu⟩
    · exact .inl hnone
    · exact .inr ⟨_, u₁, u₂, h₁, h₂, hu, rfl⟩

end Store

namespace Adapter
variable {home place : Location} {a : Adapter} {w₁ w₂ : World}

theorem agrees_readAddress (c : AdapterConfig) : Agrees home place (readAddress c) := by
  unfold readAddress
  split
  · exact .pure _
  · exact .throw _
  · exact .throw _

theorem agrees_readTarget (c : AdapterConfig) (address : Address) :
    Agrees home place (readTarget c address) := by
  unfold readTarget
  split
  · exact .pure _
  · exact .throw _
  · exact .throw _

def Reaches (home place : Location) (url : String) : Prop :=
  ∀ address path mode, Address.parse url = .ok address →
    address.target? = .ok (some (.file path mode)) → Store.plainLocation home path = place

def opening (a : Adapter) (address : Address) (target : Target) : Run Adapter := do
  match Store.ofTarget target (← Run.tree) with
  | none => fail (.cannotConnect a.kindName)
  | some (store, tree) =>
    modify fun w => { w with tree }
    Run.note ⟨.info, logger, s!"Connected to {address.shown}"⟩
    return { a with store := some store }

/-- An address is not looked for as a file before it is opened. -/
theorem connect_eq {url : String} {schema : Option String} {echo : Bool}
    (hconfig : a.config = .address url schema echo) :
    a.connect = (readAddress a.config >>= fun address =>
      readTarget a.config address >>= fun target => opening a address target) := by
  have hcheck : checkFile a.config = pure () := by
    rw [hconfig]
    rfl
  have hsteps : a.connect = (checkFile a.config >>= fun _ => readAddress a.config >>= fun address =>
      readTarget a.config address >>= fun target => opening a address target) := rfl
  rw [hsteps, hcheck, pure_bind]

theorem opening_congr (h : Agree home place w₁.tree w₂.tree) {target : Target}
    (hplace : ∀ path mode, target = .file path mode → Store.plainLocation home path = place)
    (address : Address) :
    ending (opening a address target) w₁ = ending (opening a address target) w₂ ∧
      Agree home place (leaving (opening a address target) w₁).tree
        (leaving (opening a address target) w₂).tree ∧
      ∀ a', ending (opening a address target) w₁ = .ok a' →
        ∃ store, a'.store = some store ∧ store.IsAt place := by
  have htree : ∀ w, ending Run.tree w = .ok w.tree := fun _ => rfl
  unfold opening
  rw [(bind_ok (htree w₁)).1, (bind_ok (htree w₂)).1, (bind_ok (htree w₁)).2, (bind_ok (htree w₂)).2]
  rcases Store.ofTarget_congr h hplace with ⟨h₁, h₂⟩ | ⟨store, u₁, u₂, h₁, h₂, hu, hat⟩
  · rw [h₁, h₂]
    refine ⟨rfl, h, fun a' ha => ?_⟩
    cases ha
  · rw [h₁, h₂]
    refine ⟨rfl, hu, fun a' ha => ?_⟩
    cases ha
    exact ⟨store, rfl, hat⟩

section address
variable {url : String} {schema : Option String} {echo : Bool}

theorem place_of_reads (hplace : Reaches home place a.config.url) {address : Address}
    {target : Target} {w w' : World} (haddress : ending (readAddress a.config) w = .ok address)
    (htarget : ending (readTarget a.config address) w' = .ok target) (path : Path) (mode : FileMode)
    (hfile : target = .file path mode) : Store.plainLocation home path = place := by
  rw [hfile] at htarget
  exact hplace address path mode (of_readAddress haddress) (of_readTarget htarget)

theorem agrees_connect (hconfig : a.config = .address url schema echo)
    (hplace : Reaches home place a.config.url) : Agrees home place a.connect := by
  rw [connect_eq hconfig]
  refine (agrees_readAddress _).bind_of fun address w _ haddress => ?_
  refine (agrees_readTarget _ address).bind_of fun target w' _ htarget => ?_
  intro w₁ w₂ h
  obtain ⟨hend, hleft, -⟩ := opening_congr h (place_of_reads hplace haddress htarget) address
  exact ⟨hend, hleft⟩

theorem store_of_connect (hconfig : a.config = .address url schema echo)
    (hplace : Reaches home place a.config.url) {a' : Adapter} {w : World}
    (hw : w.tree.working = home) (h : ending a.connect w = .ok a') :
    ∃ store, a'.store = some store ∧ store.IsAt place := by
  rw [connect_eq hconfig] at h
  obtain ⟨address, haddress, h⟩ := of_bind_ok h
  obtain ⟨target, htarget, h⟩ := of_bind_ok h
  have hkept : (leaving (readTarget a.config address) (leaving (readAddress a.config) w)).tree.working =
      home := by
    rw [keepsTree_readTarget, keepsTree_readAddress, hw]
  exact (opening_congr (Agree.refl hkept) (place_of_reads hplace haddress htarget) address).2.2 a' h

end address

theorem agrees_fetch {store : Store} (hstore : a.store = some store) (hat : store.IsAt place)
    (table : String) (columns : List String) : Agrees home place (a.fetch table columns) := by
  intro w₁ w₂ h
  have hkeeps := keepsTree_fetch a table columns
  rw [hkeeps w₁, hkeeps w₂]
  refine ⟨?_, h⟩
  have hconnected : ∀ w, ending a.connected w = .ok store := fun w => by
    rw [connected, hstore]
    rfl
  have hleft : ∀ w, leaving a.connected w = w := fun w => by
    rw [connected, hstore]
    rfl
  have htree : ∀ w, ending Run.tree w = .ok w.tree := fun _ => rfl
  unfold fetch
  rw [(bind_ok (hconnected w₁)).1, (bind_ok (hconnected w₂)).1, hleft, hleft,
    (bind_ok (htree w₁)).1, (bind_ok (htree w₂)).1, Store.database?_congr h hat]
  simp only
  split
  · rfl
  · rfl
  · rfl
  · rfl

end Adapter

end LookupEnums
