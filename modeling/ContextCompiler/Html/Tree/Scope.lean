import ContextCompiler.Html.Tree.Basic

/-!
Scopes: how far end tags reach, and which elements end without an end tag.
-/

namespace ContextCompiler.Html.Builder

/-- The elements over which no end tag reaches. -/
def scopeEnds : List String :=
  ["applet", "caption", "html", "table", "td", "th", "marquee", "object", "template"]

/-- Whether an element is a place for plain text in a formula. -/
def isFormulaText (b : Builder) (id : Nat) : Bool :=
  (b.elementAt? id).any fun (space, name, _) =>
    space == .formula && ["mi", "mo", "mn", "ms", "mtext"].contains name

/-- Whether an element is a place for parts of a page in a drawing. -/
def isDrawingText (b : Builder) (id : Nat) : Bool :=
  (b.elementAt? id).any fun (space, name, _) =>
    space == .drawing && ["foreignobject", "desc", "title"].contains name

/-- Whether no end tag reaches over an element. -/
def endsScope (b : Builder) (id : Nat) : Bool :=
  scopeEnds.contains (b.nameOf id) || b.isFormulaText id || b.isDrawingText id

/-- Whether an element that satisfies `p` is open inside of the innermost element that satisfies
`ends`. -/
def within (ends p : Nat → Bool) : List Nat → Bool
  | [] => false
  | id :: rest => if p id then true else if ends id then false else within ends p rest

/-- Whether an element is in scope. -/
def hasInScope (b : Builder) (id : Nat) : Bool := within b.endsScope (· == id) b.stack

/-- Whether an element of the names is in scope. -/
def inScope (b : Builder) (names : List String) : Bool :=
  within b.endsScope (fun id => names.contains (b.nameOf id)) b.stack

/-- Whether an element of a name is in the scope that some more elements end. -/
def inNarrowScope (b : Builder) (more : List String) (name : String) : Bool :=
  within (fun id => more.contains (b.nameOf id) || b.endsScope id) (fun id => b.nameOf id == name)
    b.stack

/-- Whether a paragraph is open around here. -/
def inParagraph (b : Builder) : Bool := b.inNarrowScope ["button"] "p"

/-- Whether an element of the names is in the scope of tables. -/
def inTableScope (b : Builder) (names : List String) : Bool :=
  within (fun id => ["html", "table", "template"].contains (b.nameOf id))
    (fun id => names.contains (b.nameOf id)) b.stack

/-- Whether an option list is open around here. -/
def inSelectScope (b : Builder) : Bool :=
  within (fun id => !(["optgroup", "option"].contains (b.nameOf id)))
    (fun id => b.nameOf id == "select") b.stack

/-- The elements whose end may go without saying. -/
def impliedEnds : List String :=
  ["dd", "dt", "li", "optgroup", "option", "p", "rb", "rp", "rt", "rtc"]

/-- Closes the elements whose end goes without saying, but those of a name. -/
def closeImplied (b : Builder) (name : String) : Builder :=
  { b with stack := b.stack.dropWhile fun id =>
      impliedEnds.contains (b.nameOf id) && b.nameOf id != name }

/-- Closes an open paragraph. -/
def closeParagraph (b : Builder) : Builder :=
  if b.inParagraph then (b.closeImplied "p").popThrough ["p"] else b

/-- The elements that are not of the plain or the formatting kind. -/
def specialNames : List String :=
  ["address", "applet", "area", "article", "aside", "base", "basefont", "bgsound", "blockquote",
   "body", "br", "button", "caption", "center", "col", "colgroup", "dd", "details", "dir", "div",
   "dl", "dt", "embed", "fieldset", "figcaption", "figure", "footer", "form", "frame", "frameset",
   "h1", "h2", "h3", "h4", "h5", "h6", "head", "header", "hgroup", "hr", "html", "iframe", "img",
   "input", "isindex", "li", "link", "listing", "main", "marquee", "menu", "meta", "nav", "noembed",
   "noframes", "noscript", "object", "ol", "p", "param", "plaintext", "pre", "script", "section",
   "select", "source", "style", "summary", "table", "tbody", "td", "template", "textarea", "tfoot",
   "th", "thead", "title", "tr", "track", "ul", "wbr", "xmp"]

/-- Whether an element is of the special kind. -/
def isSpecial (b : Builder) (id : Nat) : Bool := specialNames.contains (b.nameOf id)

/-- Closes the innermost element of a name among the given ones, unless a special element is open
inside. -/
def closeAmong (b : Builder) (name : String) : List Nat → Builder
  | [] => b
  | id :: rest =>
    if b.nameOf id == name then { b with stack := rest }
    else if b.isSpecial id then b
    else closeAmong b name rest

/-- Closes the innermost element of a name, unless a special element is open inside. -/
def closeOther (b : Builder) (name : String) : Builder := b.closeAmong name b.stack

/-- Closes the item of a list that a new item ends. -/
def closeItem (b : Builder) (names : List String) : List Nat → Builder
  | [] => b
  | id :: rest =>
    let name := b.nameOf id
    if names.contains name then (b.closeImplied name).popThrough [name]
    else if b.isSpecial id && !(["address", "div", "p"].contains name) then b
    else closeItem b names rest

end ContextCompiler.Html.Builder
