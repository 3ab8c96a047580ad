import ContextCompiler.Sources.Changes
import ContextCompiler.Sources.Local
import ContextCompiler.Sources.Page
import ContextCompiler.Sources.Repository

/-!
Fetchers: how the content of a source is got, by the type of the source.
-/

namespace ContextCompiler

/-- How the contents of sources of one type are got. -/
structure Fetcher where
  type : String
  fetch : FetchContext → Source → Fetching String

/-- One fetcher for each type. -/
structure FetcherRegistry where
  fetchers : List Fetcher

namespace Fetcher

/-- The fetcher of this library for a type. -/
def standard (w : World) (type : SourceType) : Fetcher where
  type := type.name
  fetch ctx s :=
    if s.kind.type != type then wrongSource type s
    else
      match s.kind with
      | .text content => pure content
      | .file spec => Fetching.ofExcept (spec.render w.storage ctx.baseDir)
      | .tree spec => Fetching.ofExcept (spec.render w.storage ctx.baseDir)
      | .url spec => spec.fetch w
      | .github spec => spec.fetch w ctx
      | .gitlab spec => spec.fetch w ctx
      | .gitDiff spec => spec.fetch w ctx

end Fetcher

namespace FetcherRegistry

/-- The registry of nothing. -/
def empty : FetcherRegistry := ⟨[]⟩

/-- The fetchers of this library. -/
def standard (w : World) : FetcherRegistry :=
  ⟨[SourceType.text, .file, .tree, .url, .github, .gitlab, .gitDiff].map (Fetcher.standard w)⟩

/-- Adds a fetcher, in place of one for the same type. -/
def register (r : FetcherRegistry) (f : Fetcher) : FetcherRegistry :=
  ⟨r.fetchers.filter (·.type != f.type) ++ [f]⟩

/-- The types that there are fetchers for. -/
def types (r : FetcherRegistry) : List String := r.fetchers.map Fetcher.type

/-- The content of a source. -/
def fetch (r : FetcherRegistry) (ctx : FetchContext) (s : Source) : Fetching String :=
  match r.fetchers.find? (·.type == s.kind.type.name) with
  | some f => f.fetch ctx s
  | none =>
    fetchFailure ("no fetcher registered for source type '" ++ s.kind.type.name ++ "'")

end FetcherRegistry

end ContextCompiler
