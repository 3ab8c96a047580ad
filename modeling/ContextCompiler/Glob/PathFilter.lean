import ContextCompiler.Glob.Pattern
import ContextCompiler.Text.Blank

/-!
Selecting files by their paths relative to a source directory.

A file is selected when its name or path has the form of one of the file patterns, one of the
include entries hits its path, and no exclude entry does. No entry of a kind means no
restriction of that kind.
-/

namespace ContextCompiler

/-- An entry that hits paths: a pattern on the whole path or one segment, or a part of the path. -/
inductive PathMatcher where
  | glob (g : Glob)
  | part (s : String)
  deriving DecidableEq, Repr

namespace PathMatcher

/-- Entries with wildcards are patterns; slashes around a plain entry do not count. -/
def ofString (s : String) : PathMatcher :=
  if Glob.hasWildcard s then glob (Glob.ofString s) else part (Text.trimChar '/' s)

/-- Whether the entry hits the path. -/
def hits : PathMatcher → String → Bool
  | glob g, path => g.isMatch path || (Text.split '/' path).any g.isMatch
  | part s, path => Text.contains s path

end PathMatcher

/-- The conditions of a file selection. -/
structure PathFilter where
  filePatterns : List Glob
  includes : List PathMatcher
  excludes : List PathMatcher
  deriving DecidableEq, Repr

namespace PathFilter

/-- The entries of a list that are not blank. -/
def matchers (entries : List String) : List PathMatcher :=
  (entries.filter fun e => !Text.isBlankText e).map PathMatcher.ofString

/-- The filter of the three lists of a source. -/
def ofLists (filePattern path notPath : List String) : PathFilter :=
  ⟨filePattern.map Glob.ofString, matchers path, matchers notPath⟩

/-- What follows the last slash of a path. -/
def fileName (path : String) : String :=
  (Text.split '/' path).getLastD path

/-- A pattern with a slash is held against the path, one without against the file name. -/
def patternSelects (g : Glob) (path : String) : Bool :=
  if g.raw.toList.contains '/' then g.isMatch path else g.isMatch (fileName path)

/-- Whether an exclude entry hits the path of a file or directory. -/
def isExcluded (f : PathFilter) (path : String) : Bool :=
  f.excludes.any (·.hits path)

/-- Whether the file at `path` is selected. -/
def selects (f : PathFilter) (path : String) : Bool :=
  (f.filePatterns.isEmpty || f.filePatterns.any (patternSelects · path))
    && (f.includes.isEmpty || f.includes.any (·.hits path))
    && !f.isExcluded path

end PathFilter

end ContextCompiler
