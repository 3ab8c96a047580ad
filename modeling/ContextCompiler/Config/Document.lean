import ContextCompiler.Config.Scalar

/-!
Documents, the sources their contents come from, and the modifiers applied to contents.
-/

namespace ContextCompiler

/-- A modifier by its name, with its options. -/
structure ModifierUse where
  name : String
  options : Json
  deriving Repr

/-- Files of a directory. -/
structure FileSource where
  sourcePaths : List String
  filePattern : List String
  notPath : List String
  path : List String
  contains : List String
  notContains : List String
  maxFiles : Option Nat
  showTreeView : Bool
  deriving DecidableEq, Repr

/-- The outline of a directory. -/
structure TreeSource where
  sourcePaths : List String
  filePattern : List String
  notPath : List String
  path : List String
  maxDepth : Option Nat
  showSize : Bool
  deriving DecidableEq, Repr

/-- Web pages. -/
structure UrlSource where
  urls : List String
  /-- Limits which part of each page is kept. -/
  selector : Option String
  headers : SortedMap String
  deriving DecidableEq

/-- Files of a repository on GitHub. -/
structure GithubSource where
  /-- The owner and the name, between them a slash. -/
  repository : String
  branch : Option String
  sourcePaths : List String
  filePattern : List String
  notPath : List String
  githubToken : Option String
  deriving DecidableEq, Repr

/-- Files of a project on a GitLab server. -/
structure GitlabSource where
  server : Option String
  repository : String
  branch : Option String
  sourcePaths : List String
  filePattern : List String
  notPath : List String
  token : Option String
  deriving DecidableEq, Repr

/-- Changes recorded by git. -/
structure GitDiffSource where
  commit : String
  repository : String
  filePattern : List String
  deriving DecidableEq, Repr

/-- What a source gets its content from. -/
inductive SourceKind where
  | text (content : String)
  | file (spec : FileSource)
  | url (spec : UrlSource)
  | github (spec : GithubSource)
  | gitlab (spec : GitlabSource)
  | gitDiff (spec : GitDiffSource)
  | tree (spec : TreeSource)
  deriving DecidableEq

/-- The types of sources. -/
inductive SourceType where
  | text
  | file
  | url
  | github
  | gitlab
  | gitDiff
  | tree
  deriving DecidableEq, Repr

/-- A source of content in a document. -/
structure Source where
  description : String
  /-- Wraps the content. -/
  tag : Option String
  modifiers : List ModifierUse
  kind : SourceKind

/-- What is compiled into one output file. -/
structure Document where
  description : String
  outputPath : String
  overwrite : Bool
  tags : List String
  sources : List Source
  modifiers : List ModifierUse

namespace ModifierUse

/-- A modifier without options. -/
def named (name : String) : ModifierUse := ⟨name, .null⟩

/-- Reads a modifier: a name, or a record. -/
def read (n : Node) : Decoded ModifierUse := do
  let d := Dialect.buffered
  let short (n : Node) : Decoded ModifierUse := do pure (named (← d.string n))
  let full (n : Node) : Decoded ModifierUse :=
    FieldRule.record d "struct variant ModifierRepr::Configured"
      [.mustHave "name" d.string fun v m => { m with name := v },
       .mayHave "options" d.json fun v m => { m with options := v }]
      (named "") false n
  Dialect.anyOf "ModifierRepr" [short, full] n

end ModifierUse

namespace SourceType

/-- All types, in the order of their numbers. -/
def all : List SourceType := [text, file, url, github, gitlab, gitDiff, tree]

/-- The name of a type. -/
def name : SourceType → String
  | text => "text"
  | file => "file"
  | url => "url"
  | github => "github"
  | gitlab => "gitlab"
  | gitDiff => "git_diff"
  | tree => "tree"

/-- The type of a name; one type goes by two names. -/
def ofName? (s : String) : Option SourceType :=
  if s == "git-diff" then some gitDiff else all.find? fun t => t.name == s

/-- The names that a configuration may use. -/
def names : List String :=
  ["text", "file", "url", "github", "gitlab", "git-diff", "git_diff", "tree"]

/-- Reads a type: its name, or its number. -/
def read (d : Dialect) (n : Node) : Decoded SourceType :=
  match n with
  | .str s =>
    match ofName? s with
    | some t => pure t
    | none => throw (.unknownVariant s names)
  | .int i =>
    if d = .toml || i < 0 then n.refuse "variant identifier"
    else
      match all[i.toNat]? with
      | some t => pure t
      | none => throw (.wrongValue (.int i) "variant index 0 <= i < 7")
  | n => n.refuse "variant identifier"

end SourceType

namespace SourceKind

/-- The type of a source. -/
def type : SourceKind → SourceType
  | text _ => .text
  | file _ => .file
  | url _ => .url
  | github _ => .github
  | gitlab _ => .gitlab
  | gitDiff _ => .gitDiff
  | tree _ => .tree

/-- Reads the fields that belong to one type. -/
def readSpec (d : Dialect) (n : Node) : SourceType → Decoded SourceKind
  | .text => text <$>
    FieldRule.record d "struct TextSource" [.mayHave "content" d.string fun v _ => v] "" true n
  | .file => file <$>
    FieldRule.record d "struct FileSource"
      [.mayHave "sourcePaths" (readOneOrMany d) fun v s => { s with sourcePaths := v },
       .mayHave "filePattern" (readOneOrMany d) fun v s => { s with filePattern := v },
       .mayHave "notPath" (readOneOrMany d) fun v s => { s with notPath := v },
       .mayHave "path" (readOneOrMany d) fun v s => { s with path := v },
       .mayHave "contains" (readOneOrMany d) fun v s => { s with contains := v },
       .mayHave "notContains" (readOneOrMany d) fun v s => { s with notContains := v },
       .mayHave "maxFiles" (d.optional d.count) fun v s => { s with maxFiles := v },
       .mayHave "showTreeView" d.boolean fun v s => { s with showTreeView := v }]
      ⟨[], [], [], [], [], [], none, false⟩ true n
  | .tree => tree <$>
    FieldRule.record d "struct TreeSource"
      [.mayHave "sourcePaths" (readOneOrMany d) fun v s => { s with sourcePaths := v },
       .mayHave "filePattern" (readOneOrMany d) fun v s => { s with filePattern := v },
       .mayHave "notPath" (readOneOrMany d) fun v s => { s with notPath := v },
       .mayHave "path" (readOneOrMany d) fun v s => { s with path := v },
       .mayHave "maxDepth" (d.optional d.count) fun v s => { s with maxDepth := v },
       .mayHave "showSize" d.boolean fun v s => { s with showSize := v }]
      ⟨[], [], [], [], none, false⟩ true n
  | .url => url <$>
    FieldRule.record d "struct UrlSource"
      [.mayHave "urls" (readOneOrMany d) fun v s => { s with urls := v },
       .mayHave "selector" (d.optional d.string) fun v s => { s with selector := v },
       .mayHave "headers" (readScalarMap d) fun v s => { s with headers := v }]
      ⟨[], none, .empty⟩ true n
  | .github => github <$>
    FieldRule.record d "struct GithubSource"
      [.mustHave "repository" d.string fun v s => { s with repository := v },
       .mayHave "branch" (d.optional d.string) fun v s => { s with branch := v },
       .mayHave "sourcePaths" (readOneOrMany d) fun v s => { s with sourcePaths := v },
       .mayHave "filePattern" (readOneOrMany d) fun v s => { s with filePattern := v },
       .mayHave "notPath" (readOneOrMany d) fun v s => { s with notPath := v },
       .mayHave "githubToken" (d.optional d.string) fun v s => { s with githubToken := v }]
      ⟨"", none, [], [], [], none⟩ true n
  | .gitlab => gitlab <$>
    FieldRule.record d "struct GitlabSource"
      [.mayHave "server" (d.optional d.string) fun v s => { s with server := v },
       .mustHave "repository" d.string fun v s => { s with repository := v },
       .mayHave "branch" (d.optional d.string) fun v s => { s with branch := v },
       .mayHave "sourcePaths" (readOneOrMany d) fun v s => { s with sourcePaths := v },
       .mayHave "filePattern" (readOneOrMany d) fun v s => { s with filePattern := v },
       .mayHave "notPath" (readOneOrMany d) fun v s => { s with notPath := v },
       .mayHave "token" (d.optional d.string) fun v s => { s with token := v }]
      ⟨none, "", none, [], [], [], none⟩ true n
  | .gitDiff => gitDiff <$>
    FieldRule.record d "struct GitDiffSource"
      [.mayHave "commit" d.string fun v s => { s with commit := v },
       .mayHave "repository" d.string fun v s => { s with repository := v },
       .mayHave "filePattern" (readOneOrMany d) fun v s => { s with filePattern := v }]
      ⟨"unstaged", ".", []⟩ true n

/-- Takes the type out of the fields of a source. -/
def takeType (d : Dialect) : Option SourceType → List (Node × Node) → List (Node × Node) →
    Decoded (SourceType × List (Node × Node))
  | some t, kept, [] => pure (t, kept)
  | none, _, [] => throw (.missingField "type")
  | found, kept, (.str "type", v) :: rest => do
    if found.isSome then throw (.duplicateField "type")
    let t ← SourceType.read d v
    takeType d (some t) kept rest
  | found, kept, e :: rest => takeType d found (kept ++ [e]) rest

/-- Reads the fields of a source that depend on its type. -/
def read (d : Dialect) (fields : List (Node × Node)) : Decoded SourceKind := do
  let (t, rest) ← takeType d none [] fields
  readSpec .buffered (.map rest none) t

end SourceKind

namespace Source

/-- Reads a source. -/
def read (d : Dialect) (n : Node) : Decoded Source := do
  let (s, rest) ← FieldRule.openRecord d "struct Source"
    [.mayHave "description" d.string fun v s => { s with description := v },
     .mayHave "tag" (d.optional d.string) fun v s => { s with tag := v },
     .mayHave "modifiers" (d.list ModifierUse.read) fun v s => { s with modifiers := v }]
    (⟨"", none, [], .text ""⟩ : Source) n
  pure { s with kind := ← SourceKind.read d rest }

/-- The tag around the content: the one of the source, or `INSTRUCTION` for plain texts. An empty
tag means none. -/
def effectiveTag (s : Source) : Option String :=
  match s.tag, s.kind with
  | some "", _ => none
  | some tag, _ => some tag
  | none, .text _ => some "INSTRUCTION"
  | none, _ => none

end Source

namespace Document

/-- Reads a document. -/
def read (d : Dialect) (n : Node) : Decoded Document :=
  FieldRule.record d "struct Document"
    [.mayHave "description" d.string fun v x => { x with description := v },
     .mustHave "outputPath" d.string fun v x => { x with outputPath := v },
     .mayHave "overwrite" d.boolean fun v x => { x with overwrite := v },
     .mayHave "tags" (d.list d.string) fun v x => { x with tags := v },
     .mayHave "sources" (d.list (Source.read d)) fun v x => { x with sources := v },
     .mayHave "modifiers" (d.list ModifierUse.read) fun v x => { x with modifiers := v }]
    ⟨"", "", true, [], [], []⟩ true n

end Document

end ContextCompiler
