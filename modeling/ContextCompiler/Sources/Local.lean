import ContextCompiler.Glob.PathFilter
import ContextCompiler.Render.Block
import ContextCompiler.Render.Tree
import ContextCompiler.Sources.Context
import ContextCompiler.Storage.Walk

/-!
Sources in the local storage: files with their contents, and outlines of directories.

The paths of a source are gone through in order, and a file that several of them lead to counts
for the first. What a directory holds is met in the order of the names.
-/

namespace ContextCompiler

/-- A selected file: its path as it is shown, its path, and its bytes. -/
structure LocalFile where
  display : String
  path : List Path.Part
  bytes : List UInt8

namespace LocalFile

/-- A source path as it is shown. -/
def cleanDisplay (path : String) : String :=
  let s := (Text.trimWhile Text.isBlank path.toList).map fun c => if c == '\\' then '/' else c
  String.ofList (Text.dropEndWhile (· == '/') (Path.dropHere s))

/-- A file below a source path as it is shown. -/
def joinDisplay (sourcePath rel : String) : String :=
  let front := cleanDisplay sourcePath
  if front == "" || front == "." then rel else front ++ "/" ++ rel

/-- The files that one source path leads to. -/
def below (storage : Storage) (baseDir : String) (filter : PathFilter) (depth : Option Nat)
    (sourcePath : String) : Except Failure (List LocalFile) :=
  let root := Path.join baseDir sourcePath
  match storage.entryAt root with
  | .error fault => .error (.fetch ("source path " ++ root ++ ": " ++ fault.message))
  | .ok (.file bytes) =>
    let display := cleanDisplay sourcePath
    .ok (if filter.isExcluded display then [] else [⟨display, Path.parts root, bytes⟩])
  | .ok _ =>
    let enters (names : List String) : Bool :=
      names.getLast? != some ".git" && !filter.isExcluded (Text.join "/" names)
    let found := storage.walk enters depth root
    .ok (found.filterMap fun f =>
      let rel := Text.join "/" f.names
      if filter.selects rel then
        some ⟨joinDisplay sourcePath rel, Path.parts root ++ f.names.map Path.Part.name, f.bytes⟩
      else none)

/-- Adds the files whose paths are new. -/
def addNewFiles (files more : List LocalFile) : List LocalFile :=
  more.foldl (fun files f => if files.any (·.path == f.path) then files else files ++ [f]) files

/-- The files that the source paths lead to; no path stands for the base directory itself. -/
def collect (storage : Storage) (baseDir : String) (sourcePaths : List String)
    (filter : PathFilter) (depth : Option Nat) : Except Failure (List LocalFile) :=
  let roots := if sourcePaths.isEmpty then ["."] else sourcePaths
  roots.foldlM (fun files root => do
    pure (addNewFiles files (← below storage baseDir filter depth root))) []

/-- The text of a file, where it has one. -/
def text? (f : LocalFile) : Option String := (Text.ofUtf8? f.bytes).map String.ofList

end LocalFile

namespace FileSource

/-- Whether a text has one of the wanted parts, and none of the unwanted ones. -/
def admits (spec : FileSource) (content : String) : Bool :=
  (spec.contains.isEmpty || spec.contains.any fun c => Text.contains c content)
    && !spec.notContains.any fun c => Text.contains c content

/-- What is shown of files: their paths for the outline, and a block for each. -/
structure Shown where
  listed : List (String × Option Nat)
  blocks : List String

namespace Shown

/-- Nothing is shown yet. -/
def empty : Shown := ⟨[], []⟩

/-- One more file with its text. -/
def add (out : Shown) (display content : String) : Shown :=
  ⟨out.listed ++ [(display, none)], out.blocks ++ [Render.fileBlock display content]⟩

end Shown

/-- Whether the limit of a source is reached; a limit of 0 is none. -/
def isFull (spec : FileSource) (out : Shown) : Bool :=
  match spec.maxFiles with
  | some (m + 1) => m + 1 ≤ out.blocks.length
  | _ => false

/-- Shows files one after the other until the limit is reached. Each comes with its path as it is
shown and its text; a file that cannot be read as text is passed over, and so is one with a text
that is not admitted. -/
def gather (spec : FileSource) : Shown → List (String × Option String) → Shown
  | out, [] => out
  | out, (display, text?) :: rest =>
    if spec.isFull out then out
    else
      match text? with
      | none => gather spec out rest
      | some content =>
        if spec.admits content then gather spec (out.add display content) rest
        else gather spec out rest

/-- The outline of files between fences. -/
def outline (entries : List (String × Option Nat)) : String :=
  "\x60\x60\x60\n" ++ Render.renderTree entries ++ "\x60\x60\x60\n"

/-- What is shown as one text: the outline, if it is wanted, and the blocks. -/
def Shown.text (out : Shown) (showTreeView : Bool) : String :=
  (if showTreeView && !out.listed.isEmpty then outline out.listed ++ "\n" else "")
    ++ Text.join "\n" out.blocks

/-- The files of a source, one block each. -/
def render (spec : FileSource) (storage : Storage) (baseDir : String) : Except Failure String := do
  let filter := PathFilter.ofLists spec.filePattern spec.path spec.notPath
  let files ← LocalFile.collect storage baseDir spec.sourcePaths filter none
  let shown := spec.gather .empty (files.map fun f => (f.display, f.text?))
  pure (shown.text spec.showTreeView)

end FileSource

namespace TreeSource

/-- The outline of a source; nothing where no file is selected. -/
def render (spec : TreeSource) (storage : Storage) (baseDir : String) : Except Failure String := do
  let filter := PathFilter.ofLists spec.filePattern spec.path spec.notPath
  let files ← LocalFile.collect storage baseDir spec.sourcePaths filter spec.maxDepth
  if files.isEmpty then pure ""
  else
    pure (FileSource.outline (files.map fun f =>
      (f.display, if spec.showSize then some f.bytes.length else none)))

end TreeSource

end ContextCompiler
