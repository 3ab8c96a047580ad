import ContextCompiler.Decode.Reader
import ContextCompiler.Glob.PathFilter
import ContextCompiler.Json.Reader
import ContextCompiler.Render.Block
import ContextCompiler.Sources.Context

/-!
Sources in repositories of code hosts.

The host lists the paths of the repository, the paths are selected by roots and filter, and then
every selected file is asked for.
-/

namespace ContextCompiler

/-! ## Selecting paths -/

namespace RepositoryPaths

/-- A root as it is compared with paths. -/
def cleanRoot (root : String) : String :=
  let s := Text.trimWhile Text.isBlank root.toList
  String.ofList (Text.trimWhile (· == '/') (Path.dropHere s))

/-- A path relative to a root, if it lies there. The root itself is shown by its last name. -/
def relativeTo? (root path : String) : Option String :=
  if path == root then some (PathFilter.fileName path)
  else (Text.dropPrefix? (root.toList ++ ['/']) path.toList).map String.ofList

/-- A path relative to the first of the roots that it lies under. -/
def relative? (roots : List String) (path : String) : Option String :=
  if roots.isEmpty || roots.any fun r => r == "" || r == "." then some path
  else roots.findSome? fun root => relativeTo? root path

/-- The paths under a root that pass the filter, in order. -/
def select (paths roots : List String) (filter : PathFilter) : List String :=
  let roots := roots.map cleanRoot
  (paths.filter fun p => (relative? roots p).any filter.selects).mergeSort

end RepositoryPaths

/-! ## Listings -/

/-- An item of a listing. -/
structure ListedItem where
  path : String
  kind : String

namespace ListedItem

/-- Reads an item. -/
def read (n : Node) : Decoded ListedItem :=
  let d := Dialect.text
  FieldRule.record d "struct TreeItem"
    [.mustHave "path" d.string fun v i => { i with path := v },
     .mustHave "type" d.string fun v i => { i with kind := v }]
    ⟨"", ""⟩ true n

/-- The paths of the files of a listing. -/
def filePaths (items : List ListedItem) : List String :=
  (items.filter (·.kind == "blob")).map ListedItem.path

/-- Reads a whole text. -/
def readText {α : Type} (read : Node → Decoded α) (text : String) : Except Failure α :=
  let refused (e : DecodeError) : Failure := .fetch ("unexpected tree response: " ++ e.message)
  let (n, after) := Json.read text
  match read n, after with
  | .error e, _ => .error (refused e)
  | .ok _, some f => .error (refused (.fault f))
  | .ok v, none => .ok v

/-- The items of a listing that is a list. -/
def readList (text : String) : Except Failure (List ListedItem) :=
  readText (Dialect.text.list ListedItem.read) text

/-- The items of a listing that is a field of a record. -/
def readTree (text : String) : Except Failure (List ListedItem) :=
  let d := Dialect.text
  let rules : List (FieldRule (List ListedItem)) :=
    [.mayHave "tree" (d.list ListedItem.read) fun v _ => v,
     .mayHave "truncated" d.boolean fun _ items => items]
  readText (FieldRule.record d "struct TreeResponse" rules [] true) text

end ListedItem

/-! ## GitHub -/

namespace GithubSource

/-- Owner and name of a repository. -/
def ownerAndName? (repository : String) : Option (String × String) :=
  match Text.splitFirst ['/'] repository.toList with
  | some (owner, name) =>
    if owner.isEmpty || name.isEmpty || name.contains '/' then none
    else some (String.ofList owner, String.ofList name)
  | none => none

/-- The headers of a request. -/
def headers (accept : String) (token : Option String) : List (String × String) :=
  let auth :=
    match token with
    | some t => [("Authorization", "Bearer " ++ t)]
    | none => []
  [("Accept", accept), ("X-GitHub-Api-Version", "2022-11-28")] ++ auth

/-- Asks for a URL. -/
def ask (w : World) (accept : String) (token : Option String) (url : String) : Fetching String := do
  pure (← w.web.get url url (headers accept token)).text

/-- The selected files of a repository, one block each. -/
def fetch (spec : GithubSource) (w : World) (ctx : FetchContext) : Fetching String := do
  let token := (spec.githubToken.filter (· != "")).orElse fun _ => ctx.githubToken
  match ownerAndName? spec.repository with
  | none =>
    fetchFailure ("github repository must be 'owner/name', got '" ++ spec.repository ++ "'")
  | some (owner, name) =>
    let branch := Text.urlComponent (spec.branch.getD "main")
    let api := String.ofList (Text.dropEndWhile (· == '/') w.githubApi.toList)
    let root := api ++ "/repos/" ++ owner ++ "/" ++ name
    let listing ← ask w "application/vnd.github+json" token
      (root ++ "/git/trees/" ++ branch ++ "?recursive=1")
    let items ← Fetching.ofExcept (ListedItem.readTree listing)
    let filter := PathFilter.ofLists spec.filePattern [] spec.notPath
    let paths := RepositoryPaths.select (ListedItem.filePaths items) spec.sourcePaths filter
    let blocks ← paths.mapM fun path => do
      let encoded := Text.join "/" ((Text.split '/' path).map Text.urlComponent)
      let content ← ask w "application/vnd.github.raw" token
        (root ++ "/contents/" ++ encoded ++ "?ref=" ++ branch)
      pure (Render.fileBlock path content)
    pure (Text.join "\n" blocks)

end GithubSource

/-! ## GitLab -/

namespace GitlabSource

/-- A listing has at most this many pages. -/
def pageLimit : Nat := 50

/-- The server of projects that name none. -/
def usualServer : String := "https://gitlab.com"

/-- Asks for a URL. -/
def ask (w : World) (token : Option String) (url : String) : Fetching Answer :=
  w.web.get url url (token.toList.map fun t => ("PRIVATE-TOKEN", t))

/-- The token of the page after an answer. -/
def nextPage? (answer : Answer) : Option String :=
  (answer.plainHeader? "x-next-page").filter fun p => !Text.isBlankText p

/-- The paths of the files on a page and all that follow it; `left` is the number of pages that may
still be asked for. -/
def listPages (spec : GitlabSource) (ask : String → Fetching Answer) :
    Nat → String → Fetching (List String)
  | 0, _ =>
    fetchFailure ("gitlab tree for " ++ spec.repository ++ " exceeds " ++ toString pageLimit
      ++ " pages")
  | left + 1, page => do
    let answer ← ask page
    let items ← Fetching.ofExcept (ListedItem.readList answer.text)
    let paths := ListedItem.filePaths items
    match nextPage? answer with
    | none => pure paths
    | some next => do
      let more ← listPages spec ask left next
      pure (paths ++ more)

/-- The selected files of a project, one block each. -/
def fetch (spec : GitlabSource) (w : World) (ctx : FetchContext) : Fetching String := do
  let server := ((spec.server.orElse fun _ => ctx.gitlabServer)).getD usualServer
  let token := (spec.token.filter (· != "")).orElse fun _ => ctx.gitlabToken
  if Text.isBlankText spec.repository then fetchFailure "gitlab source has no repository"
  else
    let server := String.ofList (Text.dropEndWhile (· == '/') server.toList)
    let api := server ++ "/api/v4/projects/" ++ Text.urlComponent spec.repository
    let branch := Text.urlComponent (spec.branch.getD "main")
    let askPage (page : String) : Fetching Answer :=
      ask w token (api ++ "/repository/tree?ref=" ++ branch ++ "&recursive=true&per_page=100&page="
        ++ page)
    let listed ← spec.listPages askPage pageLimit "1"
    let filter := PathFilter.ofLists spec.filePattern [] spec.notPath
    let paths := RepositoryPaths.select listed spec.sourcePaths filter
    let blocks ← paths.mapM fun path => do
      let answer ← ask w token
        (api ++ "/repository/files/" ++ Text.urlComponent path ++ "/raw?ref=" ++ branch)
      pure (Render.fileBlock path answer.text)
    pure (Text.join "\n" blocks)

end GitlabSource

end ContextCompiler
