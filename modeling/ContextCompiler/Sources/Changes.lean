import ContextCompiler.Glob.PathFilter
import ContextCompiler.Render.Block
import ContextCompiler.Sources.Context
import ContextCompiler.Text.Lines

/-!
Sources of changes: what git tells of a commit or of the work since.
-/

namespace ContextCompiler

namespace GitDiffSource

/-- The arguments that ask git for the changes of a commit. -/
def arguments (commit : String) : List String :=
  let c := Text.trim commit
  let command :=
    if c == "" || c == "unstaged" then ["diff"]
    else if c == "staged" then ["diff", "--cached"]
    else if c == "last" then ["diff", "HEAD~1", "HEAD"]
    else if Text.contains ".." c then ["diff", c]
    else if Text.hasPrefix "HEAD~" c then ["diff", c, "HEAD"]
    else ["show", "--format=", c]
  ["--no-pager"] ++ command ++ ["--no-color"]

/-- What the first line of a section starts with. -/
def sectionMark : List Char := "diff --git ".toList

/-- The path of the section that a line starts, if it starts one. -/
def sectionPath? (line : List Char) : Option String :=
  (Text.dropPrefix? sectionMark line).map fun header =>
    let header := Text.dropEndWhile Text.isBlank header
    match Text.splitLast [' ', 'b', '/'] header with
    | some (_, path) => String.ofList path
    | none => String.ofList header

/-- The lines of the sections that pass the filter; `keeps` tells whether the current one does. -/
def keepSections (filter : PathFilter) : Bool → List (List Char) → List (List Char)
  | _, [] => []
  | keeps, line :: rest =>
    let keeps :=
      match sectionPath? line with
      | some path => filter.selects path
      | none => keeps
    if keeps then line :: keepSections filter keeps rest else keepSections filter keeps rest

/-- A text of changes with the sections of files that pass the filter. -/
def filterSections (filter : PathFilter) (diff : List Char) : List Char :=
  (keepSections filter true (Text.chunks diff)).flatten

/-- The changes as a fenced block; nothing where there are none. -/
def render (spec : GitDiffSource) (diff : List Char) : String :=
  let filter := PathFilter.ofLists spec.filePattern [] []
  let diff := filterSections filter diff
  if diff.all Text.isBlank then ""
  else
    let fence := Render.fenceFor (String.ofList diff)
    fence ++ "diff\n" ++ String.ofList (Text.dropEndWhile Text.isBlank diff) ++ "\n" ++ fence
      ++ "\n"

/-- The changes of a source. -/
def fetch (spec : GitDiffSource) (w : World) (ctx : FetchContext) : Fetching String := do
  let args := arguments spec.commit
  match w.git with
  | none => fetchFailure ("failed to run git: " ++ StorageFault.missing.message)
  | some result =>
    let command := ["-C", Path.join ctx.baseDir spec.repository] ++ args
    modify fun t => { t with commands := t.commands ++ [command] }
    if result.exitCode == 0 then pure (spec.render (Text.ofUtf8Lossy result.output))
    else
      let complaint := Text.trimWhile Text.isBlank (Text.ofUtf8Lossy result.complaints)
      fetchFailure ("git " ++ Text.join " " args ++ " failed: " ++ String.ofList complaint)

end GitDiffSource

end ContextCompiler
