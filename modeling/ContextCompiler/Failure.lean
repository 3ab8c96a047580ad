import ContextCompiler.Text.Quoted

/-!
The ways in which work can fail, with their wording, and warnings of what went wrong without ending
the work.
-/

namespace ContextCompiler

/-- What the file system answers when it refuses. -/
inductive StorageFault where
  | missing
  | notDirectory
  | isDirectory
  | exists
  | linkLoop
  | notEmpty
  | notText
  | nameTooLong
  | busy
  | denied
  deriving DecidableEq, Repr

namespace StorageFault

/-- The wording of a refusal. -/
def message : StorageFault → String
  | missing => "No such file or directory (os error 2)"
  | notDirectory => "Not a directory (os error 20)"
  | isDirectory => "Is a directory (os error 21)"
  | «exists» => "File exists (os error 17)"
  | linkLoop => "Too many levels of symbolic links (os error 40)"
  | notEmpty => "Directory not empty (os error 39)"
  | notText => "stream did not contain valid UTF-8"
  | nameTooLong => "File name too long (os error 36)"
  | busy => "Device or resource busy (os error 16)"
  | denied => "Permission denied (os error 13)"

end StorageFault

/-- A reason for which an operation gave up. -/
inductive Failure where
  | config (reason : String)
  | parse (origin reason : String)
  | imports (reason : String)
  | network (reason : String)
  | fetch (reason : String)
  | modifier (reason : String)
  | storage (path : String) (fault : StorageFault)
  | validation (reason : String)
  deriving DecidableEq, Repr

namespace Failure

/-- The kind of a failure in one word. -/
def kind : Failure → String
  | config _ => "config"
  | parse _ _ => "parse"
  | imports _ => "import"
  | network _ => "network"
  | fetch _ => "fetch"
  | modifier _ => "modifier"
  | storage _ _ => "io"
  | validation _ => "validation"

/-- The wording of a failure. -/
def message : Failure → String
  | config reason => "config error: " ++ reason
  | parse origin reason => "parse error in " ++ origin ++ ": " ++ reason
  | imports reason => "import error: " ++ reason
  | network reason => "network error: " ++ reason
  | fetch reason => "fetch error: " ++ reason
  | modifier reason => "modifier error: " ++ reason
  | storage path fault => "I/O error at " ++ Text.quotedPath path ++ ": " ++ fault.message
  | validation reason => "validation error: " ++ reason

end Failure

/-- A recovered problem and the place it concerns. -/
structure Warning where
  scope : String
  message : String
  deriving DecidableEq, Repr

namespace Warning

/-- A warning on one line. -/
def line (w : Warning) : String := w.scope ++ ": " ++ w.message

end Warning

end ContextCompiler
