import ContextCompiler.Text.Search
import ContextCompiler.Text.Blank

/-!
File contents as fenced blocks.

A block is headed by the path of the file. Its fence is longer than every run of backticks in
the content, so that no line of the content closes it.
-/

namespace ContextCompiler.Render

/-- The lengths of the current and the longest run of backticks after one more character. -/
def tickStep (runs : Nat × Nat) (c : Char) : Nat × Nat :=
  if c == '\x60' then (runs.1 + 1, max runs.2 (runs.1 + 1)) else (0, runs.2)

/-- The length of the longest run of backticks. -/
def longestTicks (s : List Char) : Nat := (s.foldl tickStep (0, 0)).2

/-- A fence that nothing in the content can close. -/
def fenceFor (content : String) : String :=
  String.ofList (List.replicate (max (longestTicks content.toList) 2 + 1) '\x60')

/-- Languages of fenced code by file extension. -/
def languages : List (List String × String) :=
  [(["rs"], "rust"), (["py"], "python"), (["js", "mjs", "cjs"], "javascript"),
   (["ts", "tsx"], "typescript"), (["go"], "go"), (["java"], "java"), (["kt"], "kotlin"),
   (["php"], "php"), (["rb"], "ruby"), (["c", "h"], "c"), (["cpp", "hpp", "cc"], "cpp"),
   (["cs"], "csharp"), (["sh", "bash"], "bash"), (["json"], "json"), (["yaml", "yml"], "yaml"),
   (["toml"], "toml"), (["md"], "markdown"), (["html", "htm"], "html"), (["css"], "css"),
   (["sql"], "sql"), (["xml"], "xml")]

/-- The language of a file by what follows the last point of its path. -/
def languageOf (path : String) : String :=
  match Text.splitLast ['.'] path.toList with
  | none => ""
  | some (_, ext) =>
    let ext := Text.lowerAscii (String.ofList ext)
    match languages.find? (·.1.contains ext) with
    | some (_, lang) => lang
    | none => ""

/-- The block of one file. -/
def fileBlock (path content : String) : String :=
  let fence := fenceFor content
  let body := String.ofList (Text.dropEndWhile (· == '\n') content.toList)
  "### " ++ path ++ "\n\n" ++ fence ++ languageOf path ++ "\n" ++ body ++ "\n" ++ fence ++ "\n"

end ContextCompiler.Render
