import LookupEnums.CommandLine.Footprint
import LookupEnums.Proofs.Generation.ExplicitAddress

/-! # Runs of `generate` that fail before anything is written

Such a run ends with an exit code other than zero and shows no source. Where no log stands beside the
database it has changed no file; it may have made an empty file for the database, and the directory of
an output file that the settings name, since that directory is made before the mapping is even looked
at.
-/
namespace LookupEnums
open LookupEnums.Tree
open Run (KeepsTree)

theorem Failure.code_ne_zero (e : RunError) : (Failure.ofRunError e).code ≠ 0 := by
  cases e with
  | compile e => cases e <;> simp [ofRunError, ofCompileError, unexpected]
  | adapter e => cases e <;> simp [ofRunError, ofAdapterError]
  | file e about => cases e <;> simp [ofRunError, unexpected]
  | _ => simp [ofRunError, unexpected]

namespace Command

/-- Everything up to the source, with the file that it goes to. -/
def compiled (mapping output : Option Path) (database : Option String) :
    Run (Option Path × String) := do
  let s ← Run.settings
  let target ← destination s output
  let source ← Generation.generate s (mappingPath s mapping) database
  return (target, source)

/-- The database that such a run chooses. -/
def chosen (mapping output : Option Path) (database : Option String) : Run AdapterConfig := do
  let s ← Run.settings
  let _ ← destination s output
  let (_, c) ← Generation.prepare s (mappingPath s mapping) database
  return c

def deliver : Option Path × String → Run Display
  | (none, source) => return { output := source.toList }
  | (some p, source) => do
    Run.onDisk p (Publishing.publish .none p source)
    Run.note ⟨.info, Generation.logger, s!"Wrote {p.text}"⟩
    return { messages := ["Wrote [bold]".toList ++ Markup.escape p.text.toList ++ "[/bold]".toList] }

variable {mapping output : Option Path} {database : Option String} {w : World}

theorem runGenerate_eq :
    runGenerate mapping output database = compiled mapping output database >>= deliver := by
  unfold runGenerate compiled
  simp only [bind_assoc, pure_bind]
  refine bind_congr fun s => bind_congr fun target => ?_
  cases target with
  | none => rfl
  | some p =>
    unfold Generation.write Generation.writeAmid
    simp only [bind_assoc, pure_bind]
    rfl

theorem runGenerate_of_fails {e : RunError} (h : ending (compiled mapping output database) w = .error e) :
    runGenerate mapping output database w =
      .error e (leaving (compiled mapping output database) w) := by
  rw [runGenerate_eq]
  exact eq_error_iff.mpr (bind_error h)

theorem ending_settings {s : Settings} (h : ending Run.settings w = .ok s) :
    Settings.load w.tree w.env = .ok s := by
  have hrun : Run.settings w = Run.lift .settings (Settings.load w.tree w.env) w := rfl
  rw [ending, hrun] at h
  cases hload : Settings.load w.tree w.env with
  | ok s' =>
    rw [hload] at h
    cases h
    rfl
  | error e =>
    rw [hload] at h
    cases h

/-- What may be added to the files before anything is written. -/
def MayAdd (mapping output : Option Path) (database : Option String) (w : World) (l : Location)
    (n : FileNode) : Prop :=
  (output = none ∧ ∃ s p, Settings.load w.tree w.env = .ok s ∧ s.outputFile = some p ∧
      Disk.IsOnWay w.tree.working p.parent l n) ∨
    ∃ c, ending (chosen mapping output database) w = .ok c ∧ IsDatabaseFile w.tree.working c l n

theorem grows_resolveOutput {s : Settings} {p : Path} (h : s.outputFile = some p) (t : Tree) :
    Grows (Disk.IsOnWay t.working p.parent) t (leaving s.resolveOutput t) := by
  unfold Settings.resolveOutput
  simp only [h]
  have hmake := Disk.grows_makeDirectories p.parent t
  rcases leaving_bind_cases (Disk.makeDirectories p.parent) (fun _ => pure (some p)) t with
    hleft | ⟨_, -, hleft⟩
  · rwa [hleft]
  · rwa [hleft, leaving_pure]

theorem grows_destination {s : Settings} (hs : Settings.load w.tree w.env = .ok s) (v : World)
    (hv : v.tree = w.tree) :
    Grows (MayAdd mapping output database w) w.tree (leaving (destination s output) v).tree := by
  unfold destination
  split
  next => exact (KeepsTree.pure _ v).symm ▸ hv ▸ Grows.refl _
  next p hp =>
    rw [Run.leaving_onDisk, hv]
    exact (grows_resolveOutput hp w.tree).mono fun l n h => .inl ⟨rfl, s, p, hs, hp, h⟩
  next => exact (KeepsTree.pure _ v).symm ▸ hv ▸ Grows.refl _

theorem grows_compiled (mapping output : Option Path) (database : Option String) (w : World) :
    Grows (MayAdd mapping output database w) w.tree
      (leaving (compiled mapping output database) w).tree := by
  unfold compiled
  refine KeepsTree.settings.grows.bind_of fun s hs => ?_
  have hsettings := ending_settings hs
  have hdestination : Grows (MayAdd mapping output database w) w.tree
      (leaving (destination s output) (leaving Run.settings w)).tree :=
    grows_destination hsettings _ (KeepsTree.settings w)
  refine hdestination.bind_of fun target htarget => ?_
  have hgenerate := Generation.grows_generate s (mappingPath s mapping) database
    (leaving (destination s output) (leaving Run.settings w))
  have hadd : Grows (MayAdd mapping output database w) _ _ := hgenerate.mono fun l n h => by
    obtain ⟨d, c, hprepare, hfile⟩ := h
    rw [hdestination.working] at hfile
    refine .inr ⟨c, ?_, hfile⟩
    rw [chosen, (bind_ok hs).1, (bind_ok htarget).1, (bind_ok hprepare).1]
    rfl
  exact (hdestination.trans hadd).bind fun source => KeepsTree.pure _

end Command

namespace CommandLine

theorem outcome_of_fails (width : Nat) (logged : List Char) {d : Display} (hcode : d.code ≠ 0)
    (houtput : d.output = []) :
    (outcome width logged d).code ≠ 0 ∧ (outcome width logged d).output = "" := by
  unfold outcome
  split
  next => exact ⟨Nat.one_ne_zero, rfl⟩
  next => exact ⟨hcode, by rw [houtput]⟩

theorem exists_request {arguments : List String} {c : Command}
    (h : Footprint.command? arguments = some c) :
    ∃ level, request arguments = .ok (.command level (.ok c)) := by
  unfold Footprint.command? at h
  split at h
  next level c' hrequest =>
    cases h
    exact ⟨level, hrequest⟩
  next => cases h

/-- A run of `generate` that fails at the settings, the mapping, the database or a table has an exit
code other than zero, and no output unless statements are shown. Unless a log stands beside the database,
whatever it adds to the files is an empty file for the database, or a directory above the output file
that the settings name, and nothing else is changed. -/
theorem failed_generate_keeps_files {width : Nat} {arguments : List String}
    {mapping output : Option Path} {database : Option String} {w : World} {e : RunError}
    (hcommand : Footprint.command? arguments = some (.generate mapping output database))
    (hfails : ending (Command.compiled mapping output database) w = .error e) :
    (run width arguments w).1.code ≠ 0 ∧
      ((∀ c, ending (Command.chosen mapping output database) w = .ok c → c.echo = false) →
        (run width arguments w).1.output = "") ∧
      ((∀ c, ending (Command.chosen mapping output database) w = .ok c → ¬ c.HasLog w.tree) →
        Grows (Command.MayAdd mapping output database w) w.tree (run width arguments w).2.tree) := by
  obtain ⟨level, hrequest⟩ := exists_request hcommand
  unfold run
  rw [hrequest]
  simp only [runCommand]
  cases levelFor level w with
  | error _ => exact ⟨Nat.one_ne_zero, fun _ => rfl, fun _ => Grows.refl _⟩
  | ok l =>
    have hdisplay : (Command.generate mapping output database).display width w = .error e
        (leaving (Command.compiled mapping output database) w) := Command.runGenerate_of_fails hfails
    have hrun : (Command.generate mapping output database).run width w =
        ({ messages := (Failure.ofRunError e).lines, code := (Failure.ofRunError e).code },
          leaving (Command.compiled mapping output database) w) := by
      rw [Command.run, hdisplay]
    simp only [hrun]
    obtain ⟨hcode, houtput⟩ := outcome_of_fails width
      (logLines l (leaving (Command.compiled mapping output database) w).log)
      (d := { messages := (Failure.ofRunError e).lines, code := (Failure.ofRunError e).code })
      (Failure.code_ne_zero e) rfl
    exact ⟨hcode, fun _ => houtput, fun _ => Command.grows_compiled mapping output database w⟩

/-- The mapping names an address that leads to no file, and the environment an output file. -/
def otherSource : World :=
  { Generation.ledgerWorld ("sqlalchemy", "sqlite:///other.db") with
    env := [("DBENUM_OUTPUT_FILE", "out/Lookups.cs")] }

/-- The database is made where the address leads, and has no table to read. -/
theorem failed_generate_keeps_files_other :
    Footprint.command? ["generate", "m.map"] =
        some (.generate (some Generation.ledgerPath) none none) ∧
      (∃ e, ending (Command.compiled (some Generation.ledgerPath) none none) otherSource = .error e) ∧
      (run 80 ["generate", "m.map"] otherSource).1.code ≠ 0 ∧
      (run 80 ["generate", "m.map"] otherSource).1.output = "" ∧
      Grows (Command.MayAdd (some Generation.ledgerPath) none none otherSource) otherSource.tree
        (run 80 ["generate", "m.map"] otherSource).2.tree := by
  have hcommand : Footprint.command? ["generate", "m.map"] =
      some (.generate (some Generation.ledgerPath) none none) := by
    decide +kernel
  have hfailed : (ending (Command.compiled (some Generation.ledgerPath) none none)
      otherSource).isOk = false := by
    decide +kernel
  have hchosen : (ending (Command.chosen (some Generation.ledgerPath) none none)
      otherSource).toOption = some (.address "sqlite:///other.db" none false) := by
    decide +kernel
  have hconfig : ∀ c, ending (Command.chosen (some Generation.ledgerPath) none none) otherSource =
      .ok c → c = .address "sqlite:///other.db" none false := fun c h => by
    rw [h] at hchosen
    exact Option.some.inj hchosen
  cases hfails : ending (Command.compiled (some Generation.ledgerPath) none none) otherSource with
  | ok result =>
    rw [hfails] at hfailed
    cases hfailed
  | error e =>
    obtain ⟨hcode, houtput, hfiles⟩ := failed_generate_keeps_files hcommand hfails
    refine ⟨hcommand, ⟨e, rfl⟩, hcode, houtput fun c h => ?_, hfiles fun c h => ?_⟩
    · rw [hconfig c h]
      rfl
    · rw [hconfig c h]
      rintro ⟨l, hl, ending, hending, hlog⟩
      have hplace : Adapter.location? [] "sqlite:///other.db" = some ["other.db"] := by decide +kernel
      obtain rfl := Option.some.inj (hl.symm.trans hplace)
      revert ending
      decide

def namedOutput : World where
  env := [("DBENUM_OUTPUT_FILE", "out/Lookups.cs")]

/-- The mapping is missing, but the directory of the output is there afterwards. -/
theorem failed_generate_makes_directory :
    (run 80 ["generate"] namedOutput).1.code = 1 ∧ (namedOutput.tree.node? ["out"]).isNone = true ∧
      ((run 80 ["generate"] namedOutput).2.tree.node? ["out"]).isSome = true := by
  decide +kernel

end CommandLine

end LookupEnums
