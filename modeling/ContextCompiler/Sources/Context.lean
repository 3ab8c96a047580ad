import ContextCompiler.Storage.Basic
import ContextCompiler.Web.Basic
import ContextCompiler.Config.Document

/-!
What the contents of sources are taken from.
-/

namespace ContextCompiler

/-- What a program leaves behind: what it printed, what it complained of, and its exit code. -/
structure ProgramResult where
  output : List UInt8
  complaints : List UInt8
  exitCode : Int

/-- The world that sources are fetched from. -/
structure World where
  storage : Storage
  web : Web
  /-- What git does, if there is a git. -/
  git : Option ProgramResult
  /-- Where the interface of GitHub is served. -/
  githubApi : String

/-- What a document hands to the fetchers of its sources. -/
structure FetchContext where
  /-- The directory that relative paths start from. -/
  baseDir : String
  githubToken : Option String
  gitlabToken : Option String
  gitlabServer : Option String

/-- The interface of GitHub. -/
def usualGithubApi : String := "https://api.github.com"

/-- A failure of a fetch. -/
def fetchFailure {α : Type} (reason : String) : Fetching α := Fetching.fail (.fetch reason)

/-- The failure of a fetcher that is handed a source of another type. -/
def wrongSource {α : Type} (expected : SourceType) (s : Source) : Fetching α :=
  fetchFailure (expected.name ++ " fetcher cannot handle '" ++ s.kind.type.name ++ "' sources")

end ContextCompiler
