import Mathlib
import ContextCompiler.Proofs.Web.Requests
import ContextCompiler.Sources.Repository

/-!
The pages of a listing.

A server names the page after each page, and nothing orders these names: they may repeat or run in
a circle. So only the count of pages ends the listing. Where it ends in time, the files of all pages
are selected from, in the order of the pages; in any other case the fetch fails before the first
file is asked for.
-/

namespace ContextCompiler.GitlabSource

open Fetching (Sends)

variable {spec : GitlabSource} {ask : String → Fetching Answer} {page next : String}
  {items : List ListedItem} {pages : List (String × List ListedItem)} {left : Nat}

/-! ## Chains of pages -/

/-- The branch of a source, as a part of a URL. -/
def branchPart (spec : GitlabSource) : String := Text.urlComponent (spec.branch.getD "main")

/-- The token that goes along with requests. -/
def tokenFor (spec : GitlabSource) (ctx : FetchContext) : Option String :=
  (spec.token.filter (· != "")).orElse fun _ => ctx.gitlabToken

/-- Where the interface to the project is served. -/
def apiFor (spec : GitlabSource) (ctx : FetchContext) : String :=
  let server := (spec.server.orElse fun _ => ctx.gitlabServer).getD usualServer
  String.ofList (Text.dropEndWhile (· == '/') server.toList) ++ "/api/v4/projects/" ++
    Text.urlComponent spec.repository

/-- Asks for a page of the listing. -/
def askPage (spec : GitlabSource) (w : World) (ctx : FetchContext) (page : String) :
    Fetching Answer :=
  GitlabSource.ask w (spec.tokenFor ctx) (spec.apiFor ctx ++ "/repository/tree?ref=" ++
    spec.branchPart ++ "&recursive=true&per_page=100&page=" ++ page)

/-- A project on the machine itself. -/
def shelf : GitlabSource := ⟨some "http://[::1]/", "p", none, [], [], [], none⟩

end ContextCompiler.GitlabSource
