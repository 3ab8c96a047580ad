import ContextCompiler.Text.Blank
import ContextCompiler.Text.Category
import ContextCompiler.Text.Lines
import ContextCompiler.Url.Basic

/-!
Tidying of Markdown texts.

A fence is a line that starts with three backticks after blanks; fences open and close in turn
from the top, and lines between them are code. The passes run in a fixed order: line ends,
languages of fences, wrapper tags outside code, link targets, blanks at line ends, runs of
blank lines. The result is empty, or starts with something shown and ends in one line feed.
-/

namespace ContextCompiler.Markdown

/-- Three backticks. -/
def ticks : List Char := ['\x60', '\x60', '\x60']

/-- Whether a line opens or closes code. -/
def isFence (line : List Char) : Bool := ticks.isPrefixOf (line.dropWhile Text.isBlank)

/-! ## Languages of fences -/

/-- What stands before the name of a language in some dialects. -/
def languageMarks : List (List Char) :=
  ["language-".toList, "lang-".toList, "highlight-".toList]

/-- A line with the bare name of the language after its fence. -/
def plainLanguage (line : List Char) : List Char :=
  match Text.dropPrefix? ticks line with
  | none => line
  | some rest =>
    match languageMarks.findSome? fun mark => Text.dropPrefix? mark rest with
    | some (c :: name) => if Text.isWordChar c then ticks ++ c :: name else line
    | _ => line

/-- Every fence with the bare name of its language. -/
def plainLanguages (s : List Char) : List Char :=
  Text.unlines ((Text.splitOn '\n' s).map plainLanguage)

/-! ## Lines outside code -/

/-- Applies `f` to the lines outside code; `inCode` tells whether the first of them is inside. -/
def mapOutside (f : List Char → List Char) : Bool → List (List Char) → List (List Char)
  | _, [] => []
  | inCode, line :: rest =>
    if isFence line then line :: mapOutside f (!inCode) rest
    else (if inCode then line else f line) :: mapOutside f inCode rest

/-- Whether a text ends in a line feed. -/
def endsLine (s : List Char) : Bool := s.getLast? == some '\n'

/-- The lines joined as the text that they come from was: with a final line feed or without. -/
def rejoin (s : List Char) (ls : List (List Char)) : List Char :=
  Text.unlines ls ++ if endsLine s then ['\n'] else []

/-- The text with `f` applied to its lines outside code. -/
def mapOutsideFences (f : List Char → List Char) (s : List Char) : List Char :=
  rejoin s (mapOutside f false (Text.lineChars s))

/-! ## Wrapper tags -/

/-- Elements that only wrap others. -/
def wrapperNames : List (List Char) :=
  ["div", "span", "section", "article", "aside", "header", "footer", "figure", "figcaption",
    "details", "summary"].map String.toList

/-- What follows a wrapper tag at the start of a text. -/
def wrapperTag? : List Char → Option (List Char)
  | '<' :: s =>
    let s :=
      match s with
      | '/' :: s => s
      | s => s
    wrapperNames.findSome? fun name =>
      match Text.dropPrefix? name s with
      | some ('>' :: rest) => some rest
      | some (c :: rest) =>
        if Text.isBlank c then
          match rest.dropWhile (· != '>') with
          | _ :: rest => some rest
          | [] => none
        else none
      | _ => none
  | _ => none

/-- A line without its wrapper tags. `fuel` bounds the scan. -/
def dropWrappersAux : Nat → List Char → List Char
  | 0, s => s
  | _ + 1, [] => []
  | fuel + 1, c :: s =>
    match wrapperTag? (c :: s) with
    | some rest => dropWrappersAux fuel rest
    | none => c :: dropWrappersAux fuel s

/-- A line without its wrapper tags. -/
def dropWrappers (line : List Char) : List Char := dropWrappersAux (line.length + 1) line

/-! ## Links -/

/-- A link at the start of a text: its text, its target, and what follows. -/
def link? : List Char → Option (List Char × List Char × List Char)
  | '[' :: s =>
    match s.span (· != ']') with
    | (text, ']' :: '(' :: s) =>
      match s.span fun c => c != ')' && !Text.isBlank c with
      | (c :: target, ')' :: rest) => some (text, c :: target, rest)
      | _ => none
    | _ => none
  | _ => none

/-- Whether a link target stays as it is. -/
def isSettled (target : List Char) : Bool :=
  target.head? == some '#' || "mailto:".toList.isPrefixOf target
    || match Url.read (String.ofList target) with
      | .ok _ => true
      | .error _ => false

/-- The link with its target against the base. -/
def absoluteLink (base : Url) (text target : List Char) : List Char :=
  let shown : List Char := ['['] ++ text ++ [']', '('] ++ target ++ [')']
  if isSettled target then shown
  else
    match base.join (String.ofList target) with
    | .ok url => ['['] ++ text ++ [']', '('] ++ url.toString.toList ++ [')']
    | .error _ => shown

/-- The text with its relative link targets against the base. `fuel` bounds the scan. -/
def absoluteLinksAux (base : Url) : Nat → List Char → List Char
  | 0, s => s
  | _ + 1, [] => []
  | fuel + 1, c :: s =>
    match c, link? s with
    | '!', some (_, _, rest) =>
      c :: s.take (s.length - rest.length) ++ absoluteLinksAux base fuel rest
    | _, _ =>
      match link? (c :: s) with
      | some (text, target, rest) =>
        absoluteLink base text target ++ absoluteLinksAux base fuel rest
      | none => c :: absoluteLinksAux base fuel s

/-- The text with its relative link targets against the base, if there is one. Pictures,
places within the page and absolute targets are kept. -/
def absoluteLinks (base : Option Url) (s : List Char) : List Char :=
  match base with
  | none => s
  | some base => absoluteLinksAux base (s.length + 1) s

/-! ## Blanks -/

/-- Every line without the blanks at its end; the final line feed goes. -/
def trimLineEnds (s : List Char) : List Char :=
  Text.unlines ((Text.lineChars s).map (Text.dropEndWhile Text.isBlank))

/-- Keeps at most two line feeds in a row; `n` is the number of those kept right before. -/
def collapseFeeds : Nat → List Char → List Char
  | _, [] => []
  | n, c :: s =>
    if c == '\n' then
      if n < 2 then c :: collapseFeeds (n + 1) s else collapseFeeds n s
    else c :: collapseFeeds 0 s

/-- A text that is shown ends in one line feed. -/
def closed (s : List Char) : List Char :=
  match Text.trimWhile Text.isBlank s with
  | [] => []
  | s => s ++ ['\n']

/-- The tidied text. -/
def tidy (base : Option Url) (s : List Char) : List Char :=
  let s := Text.replaceAll ['\r', '\n'] ['\n'] s
  let s := plainLanguages s
  let s := mapOutsideFences dropWrappers s
  let s := absoluteLinks base s
  closed (collapseFeeds 0 (trimLineEnds s))

/-! ## Headings -/

/-- The text of a heading of the first level. -/
def heading? : List Char → Option (List Char)
  | '#' :: s =>
    match s.span Text.isBlank with
    | ([], _) => none
    | (_, c :: text) => some (c :: text)
    | (_ :: blanks, []) => blanks.getLast?.map fun c => [c]
  | _ => none

/-- Puts the headings of the first level outside code, but the first, to the second level;
`seen` tells whether the first has been met. -/
def demote : Bool → Bool → List (List Char) → List (List Char)
  | _, _, [] => []
  | inCode, seen, line :: rest =>
    if isFence line then line :: demote (!inCode) seen rest
    else if inCode then line :: demote inCode seen rest
    else
      match heading? line with
      | none => line :: demote inCode seen rest
      | some text =>
        (if seen then '#' :: '#' :: ' ' :: text else line) :: demote inCode true rest

/-- The text with one heading of the first level at most. -/
def demoteHeadings (s : List Char) : List Char :=
  rejoin s (demote false false (Text.lineChars s))

end ContextCompiler.Markdown
