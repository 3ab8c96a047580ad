import ContextCompiler.Html.Selector
import ContextCompiler.Html.Table
import ContextCompiler.Markdown.Cleanup

/-!
Pages as Markdown.

A page is written part by part. Line feeds at the seams between parts do not add up: a seam has
as many as the side that asks for more, and two at most. Signs with a meaning in Markdown are
escaped in texts, but not in code.
-/

namespace ContextCompiler.Html

/-! ## Texts -/

/-- Blanks that pages lay their markup out with. -/
def isLayoutBlank (c : Char) : Bool := c == ' ' || c == '\t' || c == '\n' || c == '\r'

/-- A text without layout blanks at its ends. -/
def trimLayout (s : List Char) : List Char := Text.trimWhile isLayoutBlank s

/-- A text with every run of blanks as one space. -/
def squeezed : List Char → List Char
  | [] => []
  | c :: s =>
    if isTagBlank c then
      match squeezed s with
      | ' ' :: rest => ' ' :: rest
      | rest => ' ' :: rest
    else c :: squeezed s

/-- Whether a text starts as a heading does. -/
def startsHeading (s : List Char) : Bool :=
  match s.span (· == '#') with
  | (_ :: _, ' ' :: _) => true
  | _ => false

/-- The number of a list item at the start of a text, which may have parts, and the text from its
last point on. -/
def startsItem? (s : List Char) : Option (List Char × List Char) :=
  match s.span fun c => c.isDigit || c == '.' with
  | (number, ' ' :: rest) =>
    if number.getLast? == some '.' then some (number.dropLast, '.' :: ' ' :: rest) else none
  | _ => none

/-- A text whose signs do not act as Markdown. -/
def shielded (s : List Char) : List Char :=
  let t := s.flatMap fun c =>
    if ['\\', '*', '_', '\x60', '[', ']'].contains c then ['\\', c] else [c]
  match t with
  | [] => []
  | c :: rest =>
    if c == '=' || c == '~' || c == '>' then '\\' :: t
    else if c == '-' || c == '+' then
      match rest with
      | ' ' :: _ => '\\' :: t
      | _ => t
    else if c == '#' then if startsHeading t then '\\' :: t else t
    else if c.isDigit then
      match startsItem? t with
      | some (digits, rest) => digits ++ '\\' :: rest
      | none => t
    else t

/-! ## Seams -/

/-- Two texts joined: the seam has the line feeds of the side with more of them, at most two. -/
def joinSeam (a b : List Char) : List Char :=
  if b.isEmpty then a
  else
    let left := Text.dropEndWhile (· == '\n') a
    let right := b.dropWhile (· == '\n')
    let feeds := Nat.min 2 (Nat.max (a.length - left.length) (b.length - right.length))
    left ++ List.replicate feeds '\n' ++ right

/-- Texts joined at their seams. -/
def joinSeams (parts : List (List Char)) : List Char := parts.foldl joinSeam []

/-- The latest texts without the spaces at their end. -/
def trimSpaces : List (List Char) → List (List Char)
  | [] => []
  | s :: rest =>
    match Text.dropEndWhile (· == ' ') s with
    | [] => [] :: trimSpaces rest
    | t => t :: rest

/-! ## Elements -/

/-- Elements that start lines of their own. -/
def blockElements : List String :=
  ["article", "aside", "blockquote", "body", "br", "div", "footer", "h1", "h2", "h3", "h4", "h5",
   "h6", "header", "hr", "html", "li", "main", "nav", "ol", "p", "pre", "section", "table", "tbody",
   "td", "tfoot", "th", "thead", "tr", "ul"]

/-- Elements that are left out with all they hold. -/
def skippedElements : List String := ["script", "style", "nav", "iframe", "noscript", "svg"]

/-- Line feeds off both ends. -/
def trimFeeds (s : List Char) : List Char := Text.trimWhile (· == '\n') s

/-- A text as a block of its own. -/
def block (s : List Char) : List Char := ['\n', '\n'] ++ s ++ ['\n', '\n']

/-- The blanks before a text, the text, and the blanks after it. -/
def cutBlanks (s : List Char) : List Char × List Char × List Char :=
  let (before, rest) := s.span isLayoutBlank
  let text := Text.dropEndWhile isLayoutBlank rest
  (before, text, rest.drop text.length)

/-- A text between markers, with the blanks at its ends outside; blanks alone are left out. -/
def marked? (marker : List Char) (s : List Char) : Option (List Char) :=
  let (before, text, after) := cutBlanks s
  if text.isEmpty then none else some (before ++ marker ++ text ++ marker ++ after)

/-- The target of a link or a picture as it is written. -/
def linkTarget (target : String) : List Char × Bool :=
  (target.toList.flatMap fun c => if c == '(' || c == ')' then ['\\', c] else [c],
    Text.contains " " target)

/-- The lines of a title or a caption without blank ones, with its quotes escaped. -/
def titleLines (s : String) : List Char :=
  Text.replaceAll ['"'] ['\\', '"'] <|
    Text.unlines (((Text.lineChars s.toList).map trimLayout).filter (!·.isEmpty))

/-- Target and title between parentheses. -/
def linkTail (target : String) (title : Option String) : List Char :=
  let (target, spaced) := linkTarget target
  let title :=
    match title with
    | some t => [' ', '"'] ++ titleLines t ++ ['"']
    | none => []
  ['('] ++ (if spaced then ['<'] else []) ++ target ++ title ++ (if spaced then ['>'] else [])
    ++ [')']

/-- A link. -/
def linkMarkdown (attrs : List (String × String)) (content : List Char) : List Char :=
  match attrs.lookup "href" with
  | none => content
  | some target =>
    let (before, text, after) := cutBlanks content
    before ++ ['['] ++ text ++ [']'] ++ linkTail target (attrs.lookup "title") ++ after

/-- A picture; one that names no source is left out. The last attribute that names it counts. -/
def pictureMarkdown (attrs : List (String × String)) : Option (List Char) :=
  (attrs.reverse.find? fun (k, _) => k == "src" || k == "href").map fun (_, source) =>
    ['!', '['] ++ titleLines ((attrs.lookup "alt").getD "") ++ [']']
      ++ linkTail source (attrs.lookup "title")

/-- A heading. -/
def headingMarkdown (level : Nat) (content : List Char) : List Char :=
  block (List.replicate level '#' ++ ' ' :: trimLayout content)

/-- A quotation; one without text has no lines. -/
def quoteMarkdown (content : List Char) : List Char :=
  block (Text.unlines ((Text.lineChars (trimLayout content)).map fun l => ['>', ' '] ++ l))

/-- A text with its lines after the first indented by four spaces. -/
def indentRest (s : List Char) : List Char :=
  match (Text.lineChars s).map (Text.dropEndWhile isLayoutBlank) with
  | [] => []
  | first :: rest =>
    Text.unlines (first :: rest.map fun l =>
      if l.isEmpty then l else [' ', ' ', ' ', ' '] ++ l)

/-- Whether a single backtick stands in a text, and whether it stands at its start. -/
def singleTick : Option Char → Bool → List Char → Bool × Bool
  | _, _, [] => (false, false)
  | prev, atStart, c :: s =>
    if c == '\x60' && prev != some '\x60' && s.head? != some '\x60' then (true, atStart)
    else singleTick (some c) false s

/-- Code within a text. -/
def inlineCode (content : List Char) : List Char :=
  let (single, atStart) := singleTick none true content
  let text := trimLayout content
  let ticks (n : Nat) : List Char := List.replicate n '\x60'
  if single && atStart then ticks 2 ++ [' '] ++ text ++ [' '] ++ ticks 2
  else if single then ticks 2 ++ text ++ ticks 2
  else ticks 1 ++ text ++ ticks 1

/-- The language that the classes of an element name. -/
def languageClass? (attrs : List (String × String)) : Option (List Char) := do
  let classes ← attrs.lookup "class"
  let c ← (Text.splitOn ' ' classes.toList).find? ("language-".toList.isPrefixOf ·)
  pure (c.drop 9)

/-- Code as a fenced block. -/
def codeBlock (attrs outer : List (String × String)) (content : List Char) : List Char :=
  let content := (Text.dropSuffix? ['\n'] content).getD content
  let holds (n : Nat) : Bool := Text.occursIn (List.replicate n '\x60') content
  let fence := List.replicate (if holds 4 then 5 else if holds 3 then 4 else 3) '\x60'
  let language := ((languageClass? attrs).orElse fun _ => languageClass? outer).getD []
  fence ++ language ++ ['\n'] ++ content ++ ['\n'] ++ fence

/-- What is around a part: the element that holds it, how many list items of that element come
before it, and whether it is code. -/
structure Around where
  name : String
  attrs : List (String × String)
  items : Nat
  isCode : Bool

/-- The number of the first item of a numbered list. -/
def firstNumber (attrs : List (String × String)) : Nat :=
  match attrs.lookup "start" with
  | some s =>
    let s := s.toList
    let s := (Text.dropPrefix? ['+'] s).getD s
    if s.isEmpty || s.any (!·.isDigit) then 1
    else s.foldl (fun n c => n * 10 + (c.toNat - '0'.toNat)) 0
  | none => 1

/-- An element, from what it holds as Markdown; `none` where it is left out. What a template holds
is no part of the page. -/
def elementMarkdown (around : Around) (name : String) (attrs : List (String × String))
    (content : List Char) : Option (List Char) :=
  if skippedElements.contains name then none
  else
    match name with
    | "template" => some []
    | "img" => pictureMarkdown attrs
    | "a" => some (linkMarkdown attrs content)
    | "ul" | "ol" =>
      let s := trimFeeds content
      some (if around.name == "li" then '\n' :: s ++ ['\n'] else block s)
    | "li" =>
      let s := indentRest (content.dropWhile isLayoutBlank)
      let mark :=
        if around.name == "ol" then
          (toString (firstNumber around.attrs + around.items)).toList ++ ['.', ' ', ' ']
        else ['*', ' ', ' ', ' ']
      some ('\n' :: mark ++ s ++ ['\n'])
    | "blockquote" => some (quoteMarkdown content)
    | "code" =>
      some (if around.name == "pre" then codeBlock attrs around.attrs content
        else inlineCode content)
    | "strong" | "b" => marked? ['*', '*'] content
    | "i" | "em" => marked? ['_'] content
    | "h1" => some (headingMarkdown 1 content)
    | "h2" => some (headingMarkdown 2 content)
    | "h3" => some (headingMarkdown 3 content)
    | "h4" => some (headingMarkdown 4 content)
    | "h5" => some (headingMarkdown 5 content)
    | "h6" => some (headingMarkdown 6 content)
    | "br" => some [' ', ' ', '\n']
    | "hr" => some (block ['*', ' ', '*', ' ', '*'])
    | _ => some (if blockElements.contains name then block content else content)

/-- Preformatted text; a tick or a tilde at its start does not open a fence. -/
def preformatted (s : List Char) : List Char :=
  match s with
  | '\x60' :: _ | '~' :: _ => '\\' :: s
  | _ => s

/-- A text part, after the texts before it, latest first. A space after a space is dropped, also
where the one before stands in another element. Blanks alone are layout where they stand between
the parts of a page itself. -/
def textMarkdown? (around : Around) (trimStart : Bool) (s : List Char)
    (before : List (List Char)) : Option (List Char) :=
  if around.name == "pre" then some (preformatted s)
  else if around.isCode then some s
  else if around.name == "body" && s.all isLayoutBlank then none
  else
    let s := squeezed (shielded s)
    let spaceBefore := before.head?.any fun t => t.getLast? == some ' '
    some (if trimStart || (s.head? == some ' ' && spaceBefore) then s.dropWhile (· == ' ') else s)

mutual

/-- Adds a part to the texts before it, latest first. The texts of an element are those that come
on top of the texts before it. -/
def addMarkdown (around : Around) (trimStart : Bool) (before : List (List Char)) :
    Dom → List (List Char)
  | .text s => (textMarkdown? around trimStart s before).toList ++ before
  | .comment _ => before
  | .element _ name attrs children =>
    let isCode := around.isCode || name == "pre" || name == "code"
    let trims := !isCode && blockElements.contains name
    let all := addMarkdowns ⟨name, attrs, 0, isCode⟩ trims before children
    let added := all.length - before.length
    let before := all.drop added
    match elementMarkdown around name attrs (joinSeams (all.take added).reverse) with
    | some s => s :: before
    | none => before

/-- Adds parts one after the other. -/
def addMarkdowns (around : Around) (trimStart : Bool) (before : List (List Char)) :
    List Dom → List (List Char)
  | [] => before
  | d :: rest =>
    let isBlock := d.name?.any blockElements.contains
    let before := if isBlock then trimSpaces before else before
    let after := addMarkdown around trimStart before d
    let trims := if after.length > before.length then isBlock else trimStart
    let items := if d.name? == some "li" then around.items + 1 else around.items
    addMarkdowns { around with items := items } trims after rest

end

/-- The parts of a page as Markdown. -/
def pageMarkdown (page : List Dom) : List Char :=
  trimFeeds (joinSeams (trimSpaces (addMarkdowns ⟨"", [], 0, false⟩ true [] page)).reverse)

/-! ## Whole conversions -/

/-- What stands in the page for the table of a number. -/
def tableMark (i : Nat) : List Char := s!"CTXGENTABLE{i}PLACEHOLDER".toList

/-- Puts marks in place of tables, from the table of number `i` on. -/
def markTables : Nat → List Dom → List Char → List Char
  | _, [], s => s
  | i, t :: rest, s =>
    markTables (i + 1) rest
      (Text.replaceFirst t.outerMarkup ("<p>".toList ++ tableMark i ++ "</p>".toList) s)

/-- Puts tables in place of their marks, from the table of number `i` on. -/
def placeTables : Nat → List Dom → List Char → List Char
  | _, [], s => s
  | i, t :: rest, s =>
    placeTables (i + 1) rest (Text.replaceFirst (tableMark i) (tableMarkdown t) s)

/-- The tables of a page, outer ones before those they hold. -/
def tablesOf (page : List Dom) : List Dom :=
  (Dom.elementsOf page).filter (·.name? == some "table")

/-- A page or a part of one as tidied Markdown, with its links against the base. -/
def toMarkdown (html : String) (base : Option Url) : String :=
  let parts := readFragment html
  let tables := tablesOf parts
  let marked :=
    if tables.isEmpty then html
    else String.ofList (markTables 0 tables (Dom.markups false parts))
  String.ofList (Markdown.tidy base (placeTables 0 tables (pageMarkdown (readPage marked))))

/-- Where the main content of a page may be, the likeliest first. -/
def contentSelectors : List Selector :=
  let hasClass (c : String) : Selector := .attr "class" .word c.toList false
  [.after (.tag "article") .descendant (hasClass "markdown"), hasClass "vp-doc",
   hasClass "markdown-section", .attr "role" .equal "main".toList false, .tag "article",
   .tag "main", hasClass "content", .tag "body"]

/-- The markup of the main content of a page. -/
def mainContent (html : String) : String :=
  let page := readPage html
  match contentSelectors.findSome? fun s => (s.pick page).head? with
  | some d => String.ofList d.innerMarkup
  | none => html

/-- The main content of a page as tidied Markdown. -/
def contentMarkdown (html : String) (base : Option Url) : String :=
  toMarkdown (mainContent html) base

end ContextCompiler.Html
