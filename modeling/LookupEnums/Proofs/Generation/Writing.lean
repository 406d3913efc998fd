import LookupEnums.Proofs.Files.Publishing
import LookupEnums.Proofs.Generation.ExplicitAddress

/-! # Writing generated source

Once the source is there, writing it is all or nothing, whichever step meets trouble: it fails and no
file is another than before, or it ends with the source at the destination and nowhere else.
-/
namespace LookupEnums.Generation
open LookupEnums.Tree Publishing
open Run (KeepsTree)
variable {trouble : Trouble} {s : Settings} {p output : Path} {explicit : Option String} {w : World}
  {source : String}

/-- Writing publishes the generated source, and only that works on the files. -/
theorem writeAmid_of_generated (hsource : ending (generate s p explicit) w = .ok source) :
    ending (writeAmid trouble s p output explicit) w =
        ((ending (publish trouble output source) (leaving (generate s p explicit) w).tree).map
          fun _ => output).mapError (.file · output) ∧
      (leaving (writeAmid trouble s p output explicit) w).tree =
        leaving (publish trouble output source) (leaving (generate s p explicit) w).tree := by
  unfold writeAmid
  rw [(bind_ok hsource).1, (bind_ok hsource).2]
  generalize leaving (generate s p explicit) w = v
  have hend := Run.ending_onDisk output (publish trouble output source) v
  have hleft := Run.leaving_onDisk output (publish trouble output source) v
  cases hpublish : ending (publish trouble output source) v.tree with
  | error e =>
    rw [hpublish] at hend
    rw [(bind_error hend).1, (bind_error hend).2]
    exact ⟨rfl, hleft⟩
  | ok _ =>
    rw [hpublish] at hend
    rw [(bind_ok hend).1, (bind_ok hend).2]
    have hkeeps : KeepsTree (do
        Run.note ⟨.info, logger, s!"Wrote {output.text}"⟩
        return output) :=
      (KeepsTree.note _).bind fun _ => .pure output
    exact ⟨rfl, (hkeeps _).trans hleft⟩

/-- A file that was there before the source was generated is still there when it is. -/
theorem node?_generated (explicit : Option String) {l : Location} {content : Content}
    (h : w.tree.node? l = some (.file content)) :
    (leaving (generate s p explicit) w).tree.node? l = some (.file content) :=
  (grows_generate s p explicit w).node?_of h

/-- With the source generated, writing it fails and has changed no file, nor left a new one, though it
may have made directories on the way to the destination; or no step has met trouble, it ends with
the destination, and there is the source, while all other places have the files they had. Where no log
stands beside the database, a file that was there even before the source was generated is as it was,
unless it is the destination of a writing that succeeded. -/
theorem write_all_or_nothing (hsource : ending (generate s p explicit) w = .ok source) :
    ((∃ e, ending (writeAmid trouble s p output explicit) w = .error (.file e output) ∧
        Spared output (leaving (generate s p explicit) w).tree
          (leaving (writeAmid trouble s p output explicit) w).tree) ∨
      trouble = .none ∧ ending (writeAmid trouble s p output explicit) w = .ok output ∧
        Published output source (leaving (generate s p explicit) w).tree
          (leaving (writeAmid trouble s p output explicit) w).tree) ∧
    ((∀ d c, ending (prepare s p explicit) w = .ok (d, c) → ¬ c.HasLog w.tree) →
      ∀ l content, w.tree.node? l = some (.file content) →
        (leaving (writeAmid trouble s p output explicit) w).tree.node? l = some (.file content) ∨
          l = Store.plainLocation w.tree.working output ∧
            ending (writeAmid trouble s p output explicit) w = .ok output) := by
  obtain ⟨hend, hleft⟩ := writeAmid_of_generated hsource
  have hworking := (grows_generate s p explicit w).working
  rw [hend, hleft]
  cases hpublish : ending (publish trouble output source)
      (leaving (generate s p explicit) w).tree with
  | error e =>
    have hspared := Spared.ofGrows (grows_of_publish_error hpublish)
    refine ⟨.inl ⟨e, rfl, hspared⟩, fun _ l content h => .inl ?_⟩
    exact (hspared.sameFileAt l content).mpr (node?_generated explicit h)
  | ok _ =>
    obtain ⟨htrouble, hpublished⟩ := published_of_publish_ok hpublish
    refine ⟨.inr ⟨htrouble, rfl, hpublished⟩, fun _ l content h => ?_⟩
    by_cases hl : l = Store.plainLocation w.tree.working output
    · exact .inr ⟨hl, rfl⟩
    · rw [← hworking] at hl
      exact .inl ((hpublished.sameFileAt l hl content).mpr (node?_generated explicit h))

/-- The device is full after three bytes. -/
def fullDevice : Trouble := fun step => if step = .write then some ⟨3, .busy⟩ else none

def ledgerOutput : Path := ⟨"", ["out", "L.cs"]⟩

theorem write_all_or_nothing_ledger :
    ∃ source, ending (generate {} ledgerPath (some ledgerAddress))
        (ledgerWorld ("sqlite", "l.db")) = .ok source ∧
      ∃ e, ending (writeAmid fullDevice {} ledgerPath ledgerOutput (some ledgerAddress))
          (ledgerWorld ("sqlite", "l.db")) = .error (.file e ledgerOutput) ∧
        Spared ledgerOutput
          (leaving (generate {} ledgerPath (some ledgerAddress)) (ledgerWorld ("sqlite", "l.db"))).tree
          (leaving (writeAmid fullDevice {} ledgerPath ledgerOutput (some ledgerAddress))
            (ledgerWorld ("sqlite", "l.db"))).tree := by
  have hholds := holds_ledger (by decide : ("sqlite", "l.db") ∈ sources)
  have hcompiles : (ending (compile {} ledgerPath (some ledgerAddress))
      (ledgerWorld ("sqlite", "l.db"))).isOk = true := by
    rw [ending_compile_of_accept (by decide) hholds tables_ledger rfl]
    exact compiles_ledger
  cases hcompile : ending (compile {} ledgerPath (some ledgerAddress))
      (ledgerWorld ("sqlite", "l.db")) with
  | error e =>
    rw [hcompile] at hcompiles
    cases hcompiles
  | ok env =>
    have hsource : ending (generate {} ledgerPath (some ledgerAddress))
        (ledgerWorld ("sqlite", "l.db")) = .ok (Source.render (Settings.indent {}) env) := by
      rw [ending_generate, hcompile]
      rfl
    rcases (write_all_or_nothing hsource).1 with
      hfails | ⟨htrouble, -, -⟩
    · exact ⟨_, hsource, hfails⟩
    · have hwrite := congrFun htrouble .write
      cases hwrite

end LookupEnums.Generation
