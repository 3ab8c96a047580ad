import ContextCompiler.Config.Scalar

/-!
Import directives: which configuration to bring in, and what of it.
-/

namespace ContextCompiler

/-- Where an import points. -/
inductive ImportTarget where
  /-- A path or path pattern, relative to the importing configuration. -/
  | file (path : String)
  | url (url : String)
  deriving DecidableEq, Repr

/-- A selection of prompts and tools. -/
structure ImportFilter where
  includeTags : List String
  excludeTags : List String
  ids : Option (List String)
  deriving DecidableEq, Repr

/-- A directive to merge another configuration into the one it stands in. -/
structure ImportDirective where
  target : ImportTarget
  /-- Put in front of the output path of every imported document. -/
  pathPrefix : Option String
  /-- The output paths, prefix included, of the documents to keep; all when there is no list. -/
  docs : Option (List String)
  filter : ImportFilter
  headers : SortedMap String
  deriving DecidableEq

namespace ImportFilter

/-- The selection of everything. -/
def all : ImportFilter := ⟨[], [], none⟩

/-- Whether two lists share an element. -/
def intersects (a b : List String) : Bool := a.any b.contains

/-- Whether a prompt or tool with this id and these tags is selected. -/
def allows (f : ImportFilter) (id : String) (tags : List String) : Bool :=
  (match f.ids with
    | none => true
    | some ids => ids.contains id)
    && (f.includeTags.isEmpty || intersects tags f.includeTags)
    && !intersects tags f.excludeTags

/-- The two lists of tags of a selection. -/
def readTags (d : Dialect) (n : Node) : Decoded (List String × List String) :=
  FieldRule.record d "struct TagFilter"
    [.mayHave "include" (d.list d.string) fun v t => (v, t.2),
     .mayHave "exclude" (d.list d.string) fun v t => (t.1, v)]
    ([], []) true n

/-- Reads a selection. -/
def read (d : Dialect) (n : Node) : Decoded ImportFilter :=
  FieldRule.record d "struct ImportFilter"
    [.mayHave "tags" (readTags d) fun v f => { f with includeTags := v.1, excludeTags := v.2 },
     .mayHave "ids" (d.optional (d.list d.string)) fun v f => { f with ids := v }]
    all true n

end ImportFilter

/-- The fields of a directive as they are written. -/
structure ImportEntry where
  path : Option String
  url : Option String
  kind : Option String
  pathPrefix : Option String
  docs : Option (List String)
  filter : ImportFilter
  headers : SortedMap String

namespace ImportEntry

/-- Reads the fields of a directive. -/
def read (d : Dialect) (n : Node) : Decoded ImportEntry :=
  FieldRule.record d "struct ImportEntry"
    [.mayHave "path" (d.optional d.string) fun v e => { e with path := v },
     .mayHave "url" (d.optional d.string) fun v e => { e with url := v },
     .mayHave "type" (d.optional d.string) fun v e => { e with kind := v },
     .mayHave "pathPrefix" (d.optional d.string) fun v e => { e with pathPrefix := v },
     .mayHave "docs" (d.optional (d.list d.string)) fun v e => { e with docs := v },
     .mayHave "filter" (ImportFilter.read d) fun v e => { e with filter := v },
     .mayHave "headers" (readScalarMap d) fun v e => { e with headers := v }]
    ⟨none, none, none, none, none, .all, .empty⟩ true n

/-- What a directive points at, by its type, path and URL. -/
def target (e : ImportEntry) : Decoded ImportTarget :=
  match e.kind, e.path, e.url with
  | some "url", _, some url => pure (.url url)
  | none, none, some url => pure (.url url)
  | some "url", some path, none => pure (.url path)
  | some "local", some path, _ => pure (.file path)
  | none, some path, _ => pure (.file path)
  | some "local", none, some _ =>
    throw (.invalid "local import requires 'path', found only 'url'")
  | some kind, _, _ =>
    if kind != "url" && kind != "local" then
      throw (.invalid ("unknown import type '" ++ kind ++ "'"))
    else throw (.invalid "import requires either 'path' or 'url'")
  | none, none, none => throw (.invalid "import requires either 'path' or 'url'")

end ImportEntry

namespace ImportDirective

/-- An import of everything at a path. -/
def ofPath (path : String) : ImportDirective :=
  ⟨.file path, none, none, .all, .empty⟩

/-- Reads a directive: a path, or a record. -/
def read (n : Node) : Decoded ImportDirective := do
  let short (n : Node) : Decoded (String ⊕ ImportEntry) := do
    pure (.inl (← Dialect.buffered.string n))
  let full (n : Node) : Decoded (String ⊕ ImportEntry) := do
    pure (.inr (← ImportEntry.read .buffered n))
  match ← Dialect.anyOf "ImportRepr" [short, full] n with
  | .inl path => pure (ofPath path)
  | .inr e =>
    let target ← e.target
    pure ⟨target, e.pathPrefix.filter (· != ""), e.docs, e.filter, e.headers⟩

end ImportDirective

end ContextCompiler
