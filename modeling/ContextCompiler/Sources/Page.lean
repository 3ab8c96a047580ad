import ContextCompiler.Html.Markdown
import ContextCompiler.Sources.Context

/-!
Sources on the web: pages as Markdown, other texts as they are.
-/

namespace ContextCompiler

namespace UrlSource

/-- Whether a text looks like a page. -/
def looksLikePage (body : String) : Bool :=
  let s := body.toList.dropWhile Text.isBlank
  let head := Text.lowerAscii (String.ofList (s.take 64))
  Text.hasPrefix "<!doctype html" head || Text.hasPrefix "<html" head

/-- The elements of a page that a selector means, as a page of their own. -/
def selectMarkup (html selector : String) : Except Failure String :=
  match Html.Selector.read? selector with
  | none => .error (.fetch ("invalid selector '" ++ selector ++ "': malformed"))
  | some s =>
    match s.pick (Html.readPage html) with
    | [] => .error (.fetch ("selector '" ++ selector ++ "' matched nothing"))
    | parts =>
      .ok ("<body>" ++ Text.join "\n" (parts.map fun d => String.ofList d.outerMarkup)
        ++ "</body>")

/-- The text of one answer. -/
def ofAnswer (spec : UrlSource) (url : Url) (answer : Answer) : Except Failure String := do
  let type := (answer.plainHeader? "content-type").getD ""
  let body := answer.text
  if Text.contains "html" type || (type == "" && looksLikePage body) then
    let html ←
      match spec.selector with
      | some selector => selectMarkup body selector
      | none => pure body
    pure (Html.contentMarkdown html (some url))
  else pure body

/-- The text of one URL. -/
def fetchOne (spec : UrlSource) (w : World) (text : String) : Fetching (Url × String) := do
  match Url.read text with
  | .error e => fetchFailure ("invalid url '" ++ text ++ "': " ++ e.message)
  | .ok url =>
    let answer ← w.web.get url.toString url.toString spec.headers.entries
    let body ← Fetching.ofExcept (spec.ofAnswer url answer)
    pure (url, Text.trimEnd body)

/-- The texts of the URLs of a source; several get headings. -/
def fetch (spec : UrlSource) (w : World) : Fetching String := do
  if spec.urls.isEmpty then fetchFailure "url source has no urls"
  else
    let parts ← spec.urls.mapM (spec.fetchOne w)
    pure (Text.join "\n\n" (parts.map fun (url, body) =>
      if spec.urls.length > 1 then "### " ++ url.toString ++ "\n\n" ++ body else body))

end UrlSource

end ContextCompiler
