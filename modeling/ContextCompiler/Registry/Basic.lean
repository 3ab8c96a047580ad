import ContextCompiler.Config.Declarations
import ContextCompiler.Config.Variables
import ContextCompiler.Storage.Path

/-!
Registries: what a configuration amounts to together with its imports.

A registry is put together by absorbing others. Variables of the absorbed registry win; a
prompt or tool takes the place of one of the same id and moves to the end; a document that was
declared at the same place and has the same output path is kept once, and so is the id of a
configuration that was imported.
-/

namespace ContextCompiler

/-- Where a document was declared: the configuration, and the index in its list. -/
structure DocumentOrigin where
  configId : String
  index : Nat
  deriving DecidableEq, Repr

/-- A document with its origin. -/
structure PlacedDocument where
  origin : DocumentOrigin
  /-- The directory that relative paths of its sources start from. -/
  baseDir : String
  document : Document

/-- Everything known after imports are resolved. -/
structure Registry where
  vars : Scope
  documents : List PlacedDocument
  prompts : List Prompt
  tools : List Tool
  imports : List String

/-- Adds an item at the end, in place of those with the same id. -/
def upsert {α : Type} (id : α → String) (items : List α) (item : α) : List α :=
  items.filter (fun x => id x != id item) ++ [item]

/-- Adds every item at the end, one after the other. -/
def upsertAll {α : Type} (id : α → String) (items new : List α) : List α :=
  new.foldl (upsert id) items

/-- Adds an item at the end unless the list has one of the same key. -/
def addNew {α κ : Type} [BEq κ] (key : α → κ) (items : List α) (item : α) : List α :=
  if items.any (fun x => key x == key item) then items else items ++ [item]

/-- Adds every item that is new, one after the other. -/
def addAllNew {α κ : Type} [BEq κ] (key : α → κ) (items new : List α) : List α :=
  new.foldl (addNew key) items

/-- An output path without blanks and slashes around it and without `./` in front. -/
def normalizeOutputPath (path : String) : String :=
  let s := Text.trimWhile Text.isBlank path.toList
  String.ofList (Text.trimWhile (· == '/') (Path.dropHere s))

/-- An output path under a prefix. -/
def prefixOutputPath (pathPrefix path : String) : String :=
  let p := normalizeOutputPath pathPrefix
  let path := normalizeOutputPath path
  if p = "" then path else p ++ "/" ++ path

namespace PlacedDocument

/-- What tells documents of a registry apart: the origin and the output path. -/
def key (d : PlacedDocument) : DocumentOrigin × String := (d.origin, d.document.outputPath)

/-- The document under the prefix of a directive. -/
def moved (pathPrefix : Option String) (d : PlacedDocument) : PlacedDocument :=
  match pathPrefix with
  | none => d
  | some p =>
    { d with document.outputPath := prefixOutputPath p d.document.outputPath }

/-- Whether a list of output paths admits the document; no list admits all. -/
def isListed (docs : Option (List String)) (d : PlacedDocument) : Bool :=
  match docs with
  | none => true
  | some allowed =>
    allowed.any fun a => normalizeOutputPath a == normalizeOutputPath d.document.outputPath

end PlacedDocument

namespace Registry

/-- The registry of nothing. -/
def empty : Registry := ⟨.empty, [], [], [], []⟩

/-- The registry of what one configuration declares itself. -/
def ofDeclarations (raw : Declarations) (configId baseDir : String) : Registry :=
  { vars := raw.vars
    documents := raw.documents.zipIdx.map fun (d, index) => ⟨⟨configId, index⟩, baseDir, d⟩
    prompts := upsertAll Prompt.id [] raw.prompts
    tools := upsertAll Tool.id [] raw.tools
    imports := [] }

/-- `r` with all of `other` on top. -/
def absorb (r other : Registry) : Registry :=
  { vars := r.vars.merge other.vars
    documents := addAllNew PlacedDocument.key r.documents other.documents
    prompts := upsertAll Prompt.id r.prompts other.prompts
    tools := upsertAll Tool.id r.tools other.tools
    imports := addAllNew id r.imports other.imports }

/-- The part of a registry that a directive asks for. -/
def select (r : Registry) (directive : ImportDirective) : Registry :=
  { r with
    documents := (r.documents.map (·.moved directive.pathPrefix)).filter (·.isListed directive.docs)
    prompts := r.prompts.filter fun p => directive.filter.allows p.id p.tags
    tools := r.tools.filter fun t => directive.filter.allows t.id t.tags }

/-- The first prompt of an id. -/
def prompt? (r : Registry) (id : String) : Option Prompt := r.prompts.find? (·.id == id)

/-- The first tool of an id. -/
def tool? (r : Registry) (id : String) : Option Tool := r.tools.find? (·.id == id)

end Registry

end ContextCompiler
