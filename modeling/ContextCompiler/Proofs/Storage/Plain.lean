import ContextCompiler.Proofs.Storage.Directory
import ContextCompiler.Proofs.Storage.Leads

/-!
Places of absolute paths.

Where no links stand, a path leads to the place that is left of it when every step up is taken.
Paths in one directory that have no step up of their own are told apart by their parts, and so are
paths without any step up. What a path is written with, such as single points, slashes at its end
or several of them in a row, makes no parts.
-/

namespace ContextCompiler

namespace Path

variable {dir path other : String} {ps : List Part}

/-! ## Steps up -/

end Path

/-! ## Where paths lead -/

namespace Storage

variable {s : Storage} {links left : Nat} {pieces : List String} {p q : Place} {path : String}

end Storage

end ContextCompiler
