import LookupEnums.Generation
import LookupEnums.Proofs.Adapter.Connection

/-! # What generating source does to the files

Loading a mapping, reading tables where no log stands beside them, and compiling leave the files as
they are, so that only connecting to a database may add to them.
-/
namespace LookupEnums
open LookupEnums.Tree
open Run (KeepsTree)

namespace MappingFile

theorem keepsTree_load (p : Path) : KeepsTree (load p) := by
  unfold load
  refine KeepsTree.get.bind fun w => (KeepsTree.lift _).bind fun config => ?_
  exact (KeepsTree.lift _).bind fun d => (KeepsTree.note _).bind fun _ => .pure d

end MappingFile

namespace Loading

theorem keepsTree_load (a : Adapter) (m : TableMapping) : KeepsTree (load a m) := by
  unfold load
  refine (Adapter.keepsTree_fetch a _ _).bind fun r => (KeepsTree.lift _).bind fun data => ?_
  exact (KeepsTree.note _).bind fun _ => .pure _

end Loading

namespace Generation

theorem keepsTree_check (s : Settings) (p : Path) : KeepsTree (check s p) := by
  unfold check
  refine (MappingFile.keepsTree_load p).bind fun d => ?_
  exact KeepsTree.ite ((KeepsTree.lift _).bind fun _ => .pure d) (.pure d)

theorem keepsTree_prepare (s : Settings) (p : Path) (explicit : Option String) :
    KeepsTree (prepare s p explicit) :=
  (keepsTree_check s p).bind fun _ => (KeepsTree.lift _).bind fun _ => .pure _

theorem keepsTree_compilePlan (plan : Plan) : KeepsTree (compilePlan plan) := by
  unfold compilePlan
  split
  · exact (KeepsTree.forM fun _ _ => .note _).bind fun _ => .pure _
  · exact (KeepsTree.forM fun _ _ => .note _).bind fun _ => .throw _

def MayMake (s : Settings) (p : Path) (explicit : Option String) (w : World) (l : Location)
    (n : FileNode) : Prop :=
  ∃ d c, ending (prepare s p explicit) w = .ok (d, c) ∧ IsDatabaseFile w.tree.working c l n

theorem grows_loadAll (s : Settings) (p : Path) (explicit : Option String) (w : World) :
    Grows (MayMake s p explicit w) w.tree (leaving (loadAll s p explicit) w).tree := by
  refine (keepsTree_prepare s p explicit).grows_bind fun (d, c) v hprepare hv => ?_
  have hconnect := Adapter.grows_connect { config := c } v
  rw [hv] at hconnect
  have hchosen : Grows (MayMake s p explicit w) w.tree
      (leaving (Adapter.connect { config := c }) v).tree :=
    hconnect.mono fun l n hfile => ⟨d, c, hprepare, hfile⟩
  exact hchosen.bind fun a => KeepsTree.mapM fun m _ => Loading.keepsTree_load a m

/-- Of all that a generation does, only connecting to the chosen database may add to the files. -/
theorem grows_generate (s : Settings) (p : Path) (explicit : Option String) (w : World) :
    Grows (MayMake s p explicit w) w.tree (leaving (generate s p explicit) w).tree := by
  have hcompile : Grows (MayMake s p explicit w) w.tree (leaving (compile s p explicit) w).tree :=
    (grows_loadAll s p explicit w).bind fun ms => (KeepsTree.lift _).bind keepsTree_compilePlan
  exact hcompile.bind fun env => KeepsTree.pure _

end Generation

end LookupEnums
