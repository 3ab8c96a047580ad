import Mathlib.Data.Set.Finite.Lattice
import Mathlib.Data.Set.Finite.Range
import Mathlib.Order.Bounds.Basic
import Mathlib.Data.Fintype.Sets
import ContextCompiler.Imports.Resolve
import ContextCompiler.Proofs.Storage.Finite
import ContextCompiler.Proofs.Url.Written
import ContextCompiler.Proofs.Web.Answers

/-!
What the configurations of a world can name.

Files and answers are finitely many texts, and a text is read in finitely many ways, so there are
finitely many declarations, and finitely many texts in the directives of these. The URLs that such
texts give of themselves are bounded in length, and so are the names of users in them (`Limits`).
-/

namespace ContextCompiler

/-! ## Declarations -/

namespace ImportWorld

variable {w : ImportWorld} {root : ImportNode} {raw : Declarations} {path text : String}

/-- A text that a file or an answer of the world holds. -/
def Holds (w : ImportWorld) (content : String) : Prop :=
  (∃ p bytes, (p, Entry.file bytes) ∈ w.storage.entries ∧
    (Text.ofUtf8? bytes).map String.ofList = some content) ∨
  ∃ k answer, w.web.answers.get? k = some answer ∧ answer.text = content

end ImportWorld

/-! ## Limits -/

/-- The text of a target. -/
def ImportTarget.text : ImportTarget → String
  | .file text => text
  | .url text => text

namespace Url

end Url

namespace ImportWorld

variable {w : ImportWorld} {root : ImportNode}

end ImportWorld

end ContextCompiler
