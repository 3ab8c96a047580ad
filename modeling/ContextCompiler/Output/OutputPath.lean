import ContextCompiler.Failure
import ContextCompiler.Storage.Basic
import ContextCompiler.Storage.Path
import ContextCompiler.Text.Blank

/-!
Where documents are written, and how.

The output path of a document is relative to the output directory and stays inside it. A file is
written in one step: the text goes to a draft beside the target first, and the draft then takes the
place of the target. So the target holds all of the text, or what it held before.
-/

namespace ContextCompiler.Output

/-! ## Output paths -/

/-- Why an output path cannot be used. -/
inductive OutputPathError where
  | empty
  | escapes (path : String)
  | absolute (path : String)
  | noFile (path : String)
  deriving DecidableEq, Repr

/-- The wording of a refused output path. -/
def OutputPathError.message : OutputPathError → String
  | empty => "document has an empty outputPath"
  | escapes path => "outputPath '" ++ path ++ "' escapes the output directory"
  | absolute path => "outputPath '" ++ path ++ "' must be relative"
  | noFile path => "outputPath '" ++ path ++ "' does not name a file"

/-- The names along an output path, or the first part that is none. -/
def partNames (path : String) : List Path.Part → Except OutputPathError (List String)
  | [] => pure []
  | .name s :: rest => do pure (s :: (← partNames path rest))
  | .here :: rest => partNames path rest
  | .up :: _ => throw (.escapes path)
  | .root :: _ => throw (.absolute path)

/-- The place of an output path under the output directory. -/
def place (root path : String) : Except OutputPathError String := do
  let trimmed := Text.trim path
  if trimmed = "" then throw .empty
  let names ← partNames path (Path.parts trimmed)
  if names.isEmpty then throw (.noFile path)
  pure (Path.join root (Text.join "/" names))

/-- The place of an output path, or the failure it is refused with. -/
def resolve (root path : String) : Except Failure String :=
  (place root path).mapError fun e => .validation e.message

/-! ## Writing -/

/-- The path of the draft of a target in the directory `parent`. -/
def draftPath (parent target : String) : String :=
  Path.join parent ("." ++ (Path.fileName? target).getD "output" ++ ".tmp")

/-- Writes a text to a file, and makes the directories above it that are missing. -/
def write (s : Storage) (target content : String) : Storage × Except Failure Unit :=
  match Path.parent? target with
  | none => (s, .error (.validation (target ++ " has no parent")))
  | some parent =>
    match s.makeAllDirectories parent with
    | (s, .error fault) => (s, .error (.storage parent fault))
    | (s, .ok ()) =>
      let draft := draftPath parent target
      match s.write draft (Text.utf8 content.toList) with
      | .error fault => (s, .error (.storage draft fault))
      | .ok s =>
        match s.rename draft target with
        | .error fault => (s, .error (.storage target fault))
        | .ok s => (s, .ok ())

end ContextCompiler.Output
