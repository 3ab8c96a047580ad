import ContextCompiler.Html.Tree.Table

/-!
Drawings and formulas.
-/

namespace ContextCompiler.Html.Builder

/-- The start tags that end a drawing or a formula. -/
def endsForeign (name : String) (attrs : List (String × String)) : Bool :=
  ["b", "big", "blockquote", "body", "br", "center", "code", "dd", "div", "dl", "dt", "em", "embed",
   "h1", "h2", "h3", "h4", "h5", "h6", "head", "hr", "i", "img", "li", "listing", "menu", "meta",
   "nobr", "ol", "p", "pre", "ruby", "s", "small", "span", "strong", "strike", "sub", "sup",
   "table", "tt", "u", "ul", "var"].contains name
    || (name == "font" && attrs.any fun (k, _) => ["color", "face", "size"].contains k)

/-- Whether a piece belongs to the drawing or the formula that is open. -/
def takesAsForeign (b : Builder) (t : Token) : Bool :=
  let isText :=
    match t with
    | .text _ => true
    | .null => true
    | _ => false
  match t with
  | .stop => false
  | .open_ name _ _ =>
    let isAnnotation := (b.elementAt? b.current).any fun (space, n, _) =>
      space == .formula && n == "annotation-xml"
    if b.isFormulaText b.current then ["mglyph", "malignmark"].contains name
    else if b.isDrawingText b.current then false
    else if isAnnotation && name == "svg" then false
    else b.isForeign b.current
  | _ =>
    b.isForeign b.current
      && !(isText && (b.isFormulaText b.current || b.isDrawingText b.current))

/-- Closes the elements of a drawing or a formula up to one that holds parts of a page. -/
def leaveForeign (b : Builder) : Builder :=
  { b with stack := (b.stack.drop 1).dropWhile fun id =>
      b.isForeign id && !b.isFormulaText id && !b.isDrawingText id }

/-- Whether an element has a name, in whatever space and case. -/
def isNamed (b : Builder) (name : String) (id : Nat) : Bool :=
  (b.elementAt? id).any fun (_, n, _) => n == name

/-- The end tag of a name in a drawing or a formula; `mode` takes the tag where it meets an
element of the page. -/
def closeForeign (b : Builder) (name : String) (mode : Builder → Step) : List Nat → Step
  | [] => .done b
  | [_] => .done b
  | id :: outer =>
    if b.isNamed name id then .done { b with stack := outer }
    else
      match outer with
      | [] => .done b
      | next :: _ =>
        if outer.length > 1 && !b.isForeign next then mode b else closeForeign b name mode outer

/-- A piece in a drawing or a formula; `mode` takes pieces as parts of the page. -/
def atForeign (b : Builder) (t : Token) (mode : Builder → Step) : Step :=
  match t with
  | .text s => .done (if isBlank s then b.addText s else (b.addText s).withoutFrames)
  | .null => .done (b.addText ['\uFFFD'])
  | .comment s => .done (b.addComment s)
  | .doctype _ => .done b
  | .stop => .done b
  | .open_ name attrs own =>
    if endsForeign name attrs then mode b.leaveForeign
    else
      let space := ((b.elementAt? b.current).map (·.1)).getD .page
      let b := b.openElement space name attrs
      .done (if own then b.pop else b)
  | .close name =>
    if name == "br" || name == "p" then mode b.leaveForeign
    else b.closeForeign name mode b.stack

end ContextCompiler.Html.Builder
