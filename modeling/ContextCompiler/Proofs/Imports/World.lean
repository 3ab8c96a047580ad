import Mathlib.Data.Set.Finite.List
import ContextCompiler.Proofs.Imports.Contents
import ContextCompiler.Proofs.Imports.Cycles
import ContextCompiler.Proofs.Imports.Termination

/-!
The import graph of a world.

Files and the web answer the same whatever was asked before. Files go by absolute paths and
configurations from the web by URLs, so that no two places have one id. A file that can be reached
has one of finitely many paths; and of a URL that can be reached, all but the user is bounded by
the URL of its importer, which was answered, while the user is always one that some text names. So
finitely many configurations can be reached.
-/

namespace ContextCompiler

namespace ImportWorld

variable {w : ImportWorld} {root n : ImportNode} {l : Limits} {d : ImportDirective}
  {t : ConfigPlace} {ts : List ConfigPlace} {raw : Declarations} {path x : String}
  {traffic : Traffic}

/-! ## Loading -/

theorem run_ofExcept {α : Type} (r : Except Failure α) :
    ((Fetching.ofExcept r).run traffic).1 = r.mapError .failure := by
  cases r <;> rfl

/-- Work that goes on with plain work comes to what that makes of the first result. -/
theorem run_bind_ofExcept {α β : Type} (work : Fetching α) (f : α → Except Failure β) :
    ((work >>= fun a => Fetching.ofExcept (f a)).run traffic).1 =
      (work.run traffic).1.bind fun a => (f a).mapError .failure := by
  simp only [bind, ExceptT.bind, ExceptT.run, ExceptT.mk, ExceptT.bindCont, StateT.bind]
  rcases work traffic with ⟨_ | a, traffic'⟩
  · rfl
  · exact run_ofExcept (f a)

/-- What a URL comes to when it is read as the text of a configuration. -/
def remoteAnswer (w : ImportWorld) (text : String) (url : Url) (d : ImportDirective)
    (traffic : Traffic) : Except Halt Declarations :=
  ((w.web.getUrl url text (w.headers d)).run traffic).1.bind fun answer =>
    (Declarations.ofText answer.text (ConfigFormat.ofPath? url.pathText) text).mapError .failure

theorem run_load_remote {url : Url} (h : Url.read x = .ok url) :
    ((w.load (.remote x) d).run traffic).1 = w.remoteAnswer x url d traffic := by
  unfold load
  simp only [h]
  exact run_bind_ofExcept _ _

theorem steady (w : ImportWorld) : w.graph.Steady := by
  intro t d traffic
  show ((w.load t d).run traffic).1 = ((w.load t d).run .none).1
  cases t with
  | file path =>
    unfold load
    rw [run_ofExcept, run_ofExcept]
  | remote x =>
    cases h : Url.read x with
    | error e =>
      unfold load
      simp only [h]
      rfl
    | ok url =>
      rw [run_load_remote h, run_load_remote h, remoteAnswer, w.web.getUrl_steady]
      rfl
  | inline => rfl

end ImportWorld

end ContextCompiler
