import LookupEnums.Proofs.Generation.Untouched
import LookupEnums.Proofs.Mapping.NoDatabase
import LookupEnums.Proofs.Mapping.Substituted

/-! # Explicit addresses

With an explicit address the source of a mapping does not say which database is read. It is checked all
the same: two sources with the same answer of that check make no difference, and one that is refused is
refused before the database is looked at.
-/
namespace LookupEnums

namespace Adapter

theorem reaches_location (home : Location) (url : String) :
    Reaches home ((location? home url).getD []) url := by
  intro address path mode hparse htarget
  have hfound : (Address.parse url).bind (·.target?) = .ok (some (.file path mode)) := by
    rw [hparse]
    exact htarget
  simp only [location?, hfound, Option.getD_some]

end Adapter

namespace Loading
open Run
variable {home place : Location}

theorem agrees_load {a : Adapter} {store : Store} (hstore : a.store = some store)
    (hat : store.IsAt place) (m : TableMapping) : Agrees home place (load a m) := by
  refine (Adapter.agrees_fetch hstore hat _ _).bind fun r => (Agrees.lift _).bind fun data => ?_
  exact (Agrees.note _).bind fun _ => .pure _

theorem agrees_loadAll {url : String} {schema : Option String} {echo : Bool}
    (hplace : Adapter.Reaches home place url) (ms : List TableMapping) :
    Agrees home place (loadAll (.address url schema echo) ms) := by
  let unconnected : Adapter := { config := .address url schema echo }
  have hconfig : unconnected.config = .address url schema echo := rfl
  refine (Adapter.agrees_connect hconfig hplace).bind_of fun a w hw ha => ?_
  obtain ⟨store, hstore, hat⟩ := Adapter.store_of_connect hconfig hplace hw ha
  exact Agrees.mapM fun m _ => agrees_load hstore hat m

end Loading

namespace Generation
open Run
open MappingFile (Holds)
variable {home place : Location}

def compileTables (c : AdapterConfig) (ms : List TableMapping) : Run TypeEnv := do
  let ms ← Loading.loadAll c ms
  compilePlan (← Run.lift .compile (Plan.ofMappings ms))

theorem compile_eq (s : Settings) (p : Path) (explicit : Option String) :
    compile s p explicit = (prepare s p explicit >>= fun x => compileTables x.2 x.1.tables) := by
  unfold compile loadAll compileTables
  simp only [bind_assoc]

theorem agrees_compilePlan (plan : Plan) : Agrees home place (compilePlan plan) := by
  unfold compilePlan
  split
  · exact (Agrees.forM fun _ _ => .note _).bind fun _ => .pure _
  · exact (Agrees.forM fun _ _ => .note _).bind fun _ => .throw _

theorem agrees_compileTables {url : String} {schema : Option String} {echo : Bool}
    (hplace : Adapter.Reaches home place url) (ms : List TableMapping) :
    Agrees home place (compileTables (.address url schema echo) ms) :=
  (Loading.agrees_loadAll hplace ms).bind fun _ => (Agrees.lift _).bind agrees_compilePlan

def accept : Option SourceConfig → Except AdapterError Unit
  | none => .ok ()
  | some c => (AdapterConfig.make c.kind c.info).map fun _ => ()

theorem of_accept {source : Option SourceConfig} {e : AdapterError} (h : accept source = .error e) :
    (∃ kind, e = .unknownKind kind) ∨ ∃ kind problems, e = .configuration kind problems := by
  cases source with
  | none => cases h
  | some c =>
    rw [accept, AdapterConfig.make] at h
    cases hkind : AdapterKind.ofName c.kind with
    | error e' =>
      rw [hkind] at h
      cases h
      unfold AdapterKind.ofName at hkind
      split at hkind
      next => cases hkind
      next =>
        cases hkind
        exact .inl ⟨_, rfl⟩
    | ok kind =>
      simp only [hkind, bind, Except.bind] at h
      split at h
      next => cases h
      next =>
        cases h
        exact .inr ⟨_, _, rfl⟩
      next =>
        cases h
        exact .inr ⟨_, _, rfl⟩

section outcome
variable {s : Settings} {p : Path} {url : String} {w : World} {source : Option SourceConfig}
  {rest : MappingFile.Rest}

theorem ending_check (h : Holds w p source rest) :
    ending (check s p) w = (rest.tables w.env >>= fun tables =>
      (accept source).mapError .adapter >>= fun _ => .ok ⟨source, tables⟩) := by
  have hload := MappingFile.ending_load h
  unfold check
  cases htables : rest.tables w.env with
  | error e =>
    rw [htables] at hload
    exact (bind_error hload).1
  | ok tables =>
    rw [htables] at hload
    rw [(bind_ok hload).1]
    cases source with
    | none => rfl
    | some c =>
      change ending (Run.lift .adapter (AdapterConfig.make c.kind c.info) >>= fun _ => _) _ = _
      rw [ending_lift_bind, accept]
      cases AdapterConfig.make c.kind c.info <;> rfl

theorem chooseDatabase_explicit (s : Settings) (source : Option SourceConfig) (hurl : url ≠ "") :
    chooseDatabase s source (some url) = .ok (.address url none false) := by
  have hgiven : given (some url) = some url := by simp [given, hurl]
  unfold chooseDatabase
  rw [hgiven]
  rfl

theorem ending_prepare (hurl : url ≠ "") (h : Holds w p source rest) :
    ending (prepare s p (some url)) w = (rest.tables w.env >>= fun tables =>
      (accept source).mapError .adapter >>= fun _ =>
        .ok (⟨source, tables⟩, .address url none false)) := by
  have hchoose := chooseDatabase_explicit s source hurl
  have hcheck := ending_check (s := s) h
  unfold prepare
  cases htables : rest.tables w.env with
  | error e =>
    rw [htables] at hcheck
    exact (bind_error hcheck).1
  | ok tables =>
    rw [htables] at hcheck
    cases haccept : accept source with
    | error e =>
      rw [haccept] at hcheck
      exact (bind_error hcheck).1
    | ok _ =>
      rw [haccept] at hcheck
      rw [(bind_ok hcheck).1, hchoose]
      rfl

/-- The outcome depends on what the check of the source says, on the rest and on the database. -/
theorem ending_compile (hurl : url ≠ "") (h : Holds w p source rest) :
    ending (compile s p (some url)) w = (rest.tables w.env >>= fun tables =>
      (accept source).mapError .adapter >>= fun _ =>
        ending (compileTables (.address url none false) tables) w) := by
  have hprepare := ending_prepare (s := s) hurl h
  rw [compile_eq]
  cases htables : rest.tables w.env with
  | error e =>
    rw [htables] at hprepare
    exact (bind_error hprepare).1
  | ok tables =>
    rw [htables] at hprepare
    cases haccept : accept source with
    | error e =>
      rw [haccept] at hprepare
      exact (bind_error hprepare).1
    | ok _ =>
      rw [haccept] at hprepare
      rw [(bind_ok hprepare).1]
      -- preparing has only added records, of which compiling the tables takes no notice
      have hkeeps := keepsTree_prepare s p (some url) w
      have hreaches := Adapter.reaches_location w.tree.working url
      have hsame : Tree.Agree w.tree.working ((Adapter.location? w.tree.working url).getD [])
          (leaving (prepare s p (some url)) w).tree w.tree := by
        rw [hkeeps]
        exact Tree.Agree.refl rfl
      exact (agrees_compileTables hreaches tables _ _ hsame).1

theorem ending_compile_of_accept {tables : List TableMapping} (hurl : url ≠ "")
    (h : Holds w p source rest) (htables : rest.tables w.env = .ok tables)
    (haccept : accept source = .ok ()) :
    ending (compile s p (some url)) w =
      ending (compileTables (.address url none false) tables) w := by
  rw [ending_compile hurl h, htables, haccept]
  rfl

theorem ending_compile_of_refuse {tables : List TableMapping} {e : AdapterError} (hurl : url ≠ "")
    (h : Holds w p source rest) (htables : rest.tables w.env = .ok tables)
    (haccept : accept source = .error e) :
    ending (compile s p (some url)) w = .error (.adapter e) := by
  rw [ending_compile hurl h, htables, haccept]
  rfl

theorem agree_location {w₁ w₂ : World} {place : Location} {source₁ source₂ : Option SourceConfig}
    (h₁ : Holds w₁ p source₁ rest) (h₂ : Holds w₂ p source₂ rest)
    (hplace : w₁.tree.locate p = .ok place) (hfiles : Tree.SameBut place w₁.tree w₂.tree)
    (hsettled : Adapter.location? w₁.tree.working url = some place →
      Store.IsSettled w₁.tree place) :
    Tree.Agree w₁.tree.working ((Adapter.location? w₁.tree.working url).getD [])
      w₁.tree w₂.tree := by
  cases hlocation : Adapter.location? w₁.tree.working url with
  | none => exact .root rfl hfiles.working.symm
  | some l =>
    obtain ⟨l₁, b₁, hl₁, hnode₁, hb₁⟩ := MappingFile.isForeign_of_holds h₁
    obtain ⟨l₂, b₂, hl₂, hnode₂, hb₂⟩ := MappingFile.isForeign_of_holds h₂
    rw [hplace] at hl₁
    rw [← hfiles.locate, hplace] at hl₂
    cases hl₁
    cases hl₂
    refine hfiles.agree hnode₁ hnode₂ hb₁ hb₂ fun hl => ?_
    cases hl
    exact hsettled hlocation

theorem ending_generate (explicit : Option String) : ending (generate s p explicit) w =
    (ending (compile s p explicit) w).map (Source.render s.indent) := by
  unfold generate
  cases hcompile : ending (compile s p explicit) w with
  | error e => exact (bind_error hcompile).1
  | ok env =>
    rw [(bind_ok hcompile).1]
    rfl

end outcome

/-- Two mappings with the same rest, read with one explicit address, have the same outcome whenever the
check gives their sources the same answer; so they do whenever it passes both. A source that it refuses
is refused whatever the address is, and the database is left alone. The address may lead to the file of
the mapping itself, unless a log beside it has yet to be put into effect. -/
theorem explicit_address_wins {s : Settings} {p : Path} {url : String} {w₁ w₂ : World}
    {place : Location} {source₁ source₂ : Option SourceConfig} {rest : MappingFile.Rest}
    (hurl : url ≠ "") (h₁ : Holds w₁ p source₁ rest) (h₂ : Holds w₂ p source₂ rest)
    (hplace : w₁.tree.locate p = .ok place) (henv : w₁.env = w₂.env)
    (hfiles : Tree.SameBut place w₁.tree w₂.tree)
    (hsettled : Adapter.location? w₁.tree.working url = some place →
      Store.IsSettled w₁.tree place) :
    (accept source₁ = accept source₂ →
      ending (compile s p (some url)) w₁ = ending (compile s p (some url)) w₂ ∧
      ending (generate s p (some url)) w₁ = ending (generate s p (some url)) w₂) ∧
    ∀ tables e, rest.tables w₁.env = .ok tables → accept source₁ = .error e →
      ((∃ kind, e = .unknownKind kind) ∨ ∃ kind problems, e = .configuration kind problems) ∧
      ending (compile s p (some url)) w₁ = .error (.adapter e) ∧
      ending (generate s p (some url)) w₁ = .error (.adapter e) ∧
      (leaving (compile s p (some url)) w₁).tree = w₁.tree ∧
      (leaving (generate s p (some url)) w₁).tree = w₁.tree := by
  constructor
  · intro haccept
    have hreaches := Adapter.reaches_location w₁.tree.working url
    have hagree := agree_location h₁ h₂ hplace hfiles hsettled
    have hcompile : ending (compile s p (some url)) w₁ = ending (compile s p (some url)) w₂ := by
      rw [ending_compile hurl h₁, ending_compile hurl h₂, haccept, henv]
      refine bind_congr fun tables => bind_congr fun _ => ?_
      exact (agrees_compileTables hreaches tables w₁ w₂ hagree).1
    refine ⟨hcompile, ?_⟩
    rw [ending_generate, ending_generate, hcompile]
  · intro tables e htables haccept
    have hprepare := ending_prepare (s := s) hurl h₁
    rw [htables, haccept] at hprepare
    have hcompile : ending (compile s p (some url)) w₁ = .error (.adapter e) ∧
        (leaving (compile s p (some url)) w₁).tree = w₁.tree := by
      rw [compile_eq, (bind_error hprepare).1, (bind_error hprepare).2, keepsTree_prepare]
      exact ⟨rfl, rfl⟩
    refine ⟨of_accept haccept, hcompile.1, ?_, hcompile.2, ?_⟩
    · rw [ending_generate, hcompile.1]
      rfl
    · rw [generate, (bind_error hcompile.1).2, hcompile.2]

def ledger : Database where
  tables := (StoredTable.ofStatement? "Currency" "CREATE TABLE Currency (Id INTEGER, Code TEXT)"
    [[.int 1, .text "CAD"]]).toList

def sources : List (String × String) :=
  [("oracle", "l.db"), ("sqlite", "l.db"), ("sqlalchemy", "sqlite:///other.db")]

def ledgerText (source : String × String) : String :=
  "::database::" ++ source.1 ++ "\n" ++ source.2 ++ "\n::table::Currency\nId\n::label::Code\n"

def ledgerWorld (source : String × String) : World where
  tree := {
    nodes := [(["m.map"], .file (.bytes (ledgerText source).toUTF8)),
      (["l.db"], .file (.database ledger))] }

def ledgerPath : Path := ⟨"", ["m.map"]⟩

def ledgerAddress : String := "sqlite:///l.db"

def ledgerConfig (source : String × String) : SourceConfig :=
  ⟨source.1, [(.text (MappingLines.connectionField source.1), .text source.2)]⟩

def ledgerLines : List MappingLines.NumberedLine :=
  [⟨3, "::table::Currency".toList⟩, ⟨4, "Id".toList⟩, ⟨5, "::label::Code".toList⟩]

def ledgerTable : TableMapping where
  table := "Currency"
  typeName := "Currency"
  key := "Id"
  label := "Code"
  columns := []
  attributes := []

theorem ledgerText_sound : ∀ source ∈ sources,
    Text.unifyLineEnds (ledgerText source).toList = (ledgerText source).toList ∧
    Text.isAllBlank (ledgerText source).toList = false ∧
    MappingLines.significant (ledgerText source).toList =
      ⟨1, ("::database::" ++ source.1).toList⟩ :: ⟨2, source.2.toList⟩ :: ledgerLines := by
  decide +kernel

theorem readText_ledger {source : String × String} (h : source ∈ sources) :
    ConfigFile.readText (ledgerWorld source).tree ledgerPath = .ok (ledgerText source) := by
  obtain ⟨hends, hblank, -⟩ := ledgerText_sound source h
  have htext : (ledgerWorld source).tree.text? ledgerPath = some (ledgerText source) :=
    MappingFile.fromUTF8?_toUTF8 _
  unfold ConfigFile.readText
  simp only [htext, hends, hblank, String.ofList_toList]
  rfl

theorem holds_ledger {source : String × String} (h : source ∈ sources) :
    Holds (ledgerWorld source) ledgerPath (some (ledgerConfig source)) (.lines ledgerLines) := by
  have hlineFormat : MappingFile.isLineFormat ledgerPath = true := by decide
  have hparts : MappingFile.parts? ledgerPath (ledgerText source) =
      some ⟨[MappingFile.linesSource source.1 source.2.toList], .lines ledgerLines⟩ := by
    rw [MappingFile.parts?, if_pos hlineFormat, (ledgerText_sound source h).2.2]
    simp only [sources, List.mem_cons, List.not_mem_nil, or_false] at h
    rcases h with rfl | rfl | rfl
    · rfl
    · rfl
    · rfl
  refine ⟨_, _, readText_ledger h, hparts, ?_⟩
  simp only [sources, List.mem_cons, List.not_mem_nil, or_false] at h
  rcases h with rfl | rfl | rfl
  · exact ⟨_, rfl, rfl⟩
  · exact ⟨_, rfl, rfl⟩
  · exact ⟨_, rfl, rfl⟩

theorem sameBut_ledger (source source' : String × String) :
    Tree.SameBut ["m.map"] (ledgerWorld source).tree (ledgerWorld source').tree := by
  refine ⟨rfl, fun l hl => ?_, rfl⟩
  have hother : (l == ["m.map"]) = false := beq_false_of_ne hl
  unfold Tree.node? ledgerWorld
  simp only [List.lookup_cons, hother]

theorem location?_ledger : Adapter.location? [] ledgerAddress = some ["l.db"] := by
  decide +kernel

theorem tables_ledger : (MappingFile.Rest.lines ledgerLines).tables [] = .ok [ledgerTable] := by
  rfl

theorem compiles_ledger : (ending (compileTables (.address ledgerAddress none false) [ledgerTable])
    (ledgerWorld ("sqlite", "l.db"))).isOk = true := by
  decide +kernel

theorem explicit_address_wins_ledger :
    ledgerAddress ≠ "" ∧
    Holds (ledgerWorld ("sqlite", "l.db")) ledgerPath (some (ledgerConfig ("sqlite", "l.db")))
      (.lines ledgerLines) ∧
    Holds (ledgerWorld ("sqlalchemy", "sqlite:///other.db")) ledgerPath
      (some (ledgerConfig ("sqlalchemy", "sqlite:///other.db"))) (.lines ledgerLines) ∧
    accept (some (ledgerConfig ("sqlite", "l.db"))) =
      accept (some (ledgerConfig ("sqlalchemy", "sqlite:///other.db"))) ∧
    ending (compile {} ledgerPath (some ledgerAddress)) (ledgerWorld ("sqlite", "l.db")) =
      ending (compile {} ledgerPath (some ledgerAddress))
        (ledgerWorld ("sqlalchemy", "sqlite:///other.db")) ∧
    ending (generate {} ledgerPath (some ledgerAddress)) (ledgerWorld ("sqlite", "l.db")) =
      ending (generate {} ledgerPath (some ledgerAddress))
        (ledgerWorld ("sqlalchemy", "sqlite:///other.db")) := by
  have h₁ := holds_ledger (by decide : ("sqlite", "l.db") ∈ sources)
  have h₂ := holds_ledger (by decide : ("sqlalchemy", "sqlite:///other.db") ∈ sources)
  have hpass : accept (some (ledgerConfig ("sqlite", "l.db"))) =
      accept (some (ledgerConfig ("sqlalchemy", "sqlite:///other.db"))) := rfl
  have hother : Adapter.location? (ledgerWorld ("sqlite", "l.db")).tree.working ledgerAddress =
      some ["m.map"] → Store.IsSettled (ledgerWorld ("sqlite", "l.db")).tree ["m.map"] := fun h => by
    rw [show (ledgerWorld ("sqlite", "l.db")).tree.working = [] from rfl, location?_ledger] at h
    exact absurd h (by decide)
  have hwins := explicit_address_wins (s := {}) (by decide) h₁ h₂ rfl rfl (sameBut_ledger _ _) hother
  exact ⟨by decide, h₁, h₂, hpass, (hwins.1 hpass).1, (hwins.1 hpass).2⟩

/-- A source of an unknown kind is refused, though the address is given and leads to the tables. -/
theorem unknown_source_refused :
    ledgerAddress ≠ "" ∧
    Holds (ledgerWorld ("oracle", "l.db")) ledgerPath (some (ledgerConfig ("oracle", "l.db")))
      (.lines ledgerLines) ∧
    Holds (ledgerWorld ("sqlite", "l.db")) ledgerPath (some (ledgerConfig ("sqlite", "l.db")))
      (.lines ledgerLines) ∧
    Tree.SameBut ["m.map"] (ledgerWorld ("oracle", "l.db")).tree
      (ledgerWorld ("sqlite", "l.db")).tree ∧
    ending (compile {} ledgerPath (some ledgerAddress)) (ledgerWorld ("oracle", "l.db")) =
      .error (.adapter (.unknownKind "oracle")) ∧
    ending (generate {} ledgerPath (some ledgerAddress)) (ledgerWorld ("oracle", "l.db")) =
      .error (.adapter (.unknownKind "oracle")) ∧
    (ending (compile {} ledgerPath (some ledgerAddress))
      (ledgerWorld ("sqlite", "l.db"))).isOk = true ∧
    (ending (generate {} ledgerPath (some ledgerAddress))
      (ledgerWorld ("sqlite", "l.db"))).isOk = true := by
  have hunknown := holds_ledger (by decide : ("oracle", "l.db") ∈ sources)
  have hknown := holds_ledger (by decide : ("sqlite", "l.db") ∈ sources)
  have hrefused := ending_compile_of_refuse (s := {}) (by decide : ledgerAddress ≠ "") hunknown
    tables_ledger (rfl : _ = Except.error (AdapterError.unknownKind "oracle"))
  have hcompiled : (ending (compile {} ledgerPath (some ledgerAddress))
      (ledgerWorld ("sqlite", "l.db"))).isOk = true := by
    rw [ending_compile_of_accept (by decide) hknown tables_ledger rfl]
    exact compiles_ledger
  refine ⟨by decide, hunknown, hknown, sameBut_ledger _ _, hrefused, ?_, hcompiled, ?_⟩
  · rw [ending_generate, hrefused]
    rfl
  · rw [ending_generate]
    cases hend : ending (compile {} ledgerPath (some ledgerAddress)) (ledgerWorld ("sqlite", "l.db"))
    · rw [hend] at hcompiled
      cases hcompiled
    · rfl

end Generation

end LookupEnums
