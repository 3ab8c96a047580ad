import ContextCompiler.Html.Token

/-!
Pages as trees, and their text and markup.
-/

namespace ContextCompiler.Html

/-- What an element belongs to: the page itself, or a drawing or a formula in it. -/
inductive Space where
  | page
  | drawing
  | formula
  deriving DecidableEq, Repr

/-- A part of a page. -/
inductive Dom where
  | text (s : List Char)
  | comment (s : List Char)
  | element (space : Space) (name : String) (attrs : List (String × String)) (children : List Dom)
  deriving Repr

namespace Dom

/-- The name of an element. -/
def name? : Dom → Option String
  | element _ name _ _ => some name
  | _ => none

/-- Whether a part is an element. -/
def isElement (d : Dom) : Bool := d.name?.isSome

/-- What an element holds. -/
def children : Dom → List Dom
  | element _ _ _ children => children
  | _ => []

/-- The value of an attribute. -/
def attr? (d : Dom) (key : String) : Option String :=
  match d with
  | element _ _ attrs _ => attrs.lookup key
  | _ => none

mutual

/-- All the text in a part, in order. -/
def allText : Dom → List Char
  | text s => s
  | comment _ => []
  | element _ _ _ children => allTexts children

/-- All the text in some parts, in order. -/
def allTexts : List Dom → List Char
  | [] => []
  | d :: rest => allText d ++ allTexts rest

end

mutual

/-- The elements in a part, itself included, parents before children. -/
def elements : Dom → List Dom
  | text _ => []
  | comment _ => []
  | element space name attrs children =>
    element space name attrs children :: elementsOf children

/-- The elements in some parts, parents before children. -/
def elementsOf : List Dom → List Dom
  | [] => []
  | d :: rest => elements d ++ elementsOf rest

end

/-- The elements of a name below an element. -/
def inside (d : Dom) (name : String) : List Dom :=
  (elementsOf d.children).filter (·.name? == some name)

/-! ## Markup -/

/-- Elements that have a start tag only. -/
def voidNames : List String :=
  ["area", "base", "basefont", "bgsound", "br", "col", "embed", "frame", "hr", "img", "input",
   "keygen", "link", "meta", "param", "source", "track", "wbr"]

/-- Elements whose text is written as it is. -/
def rawNames : List String :=
  ["style", "script", "xmp", "iframe", "noembed", "noframes", "plaintext", "noscript"]

/-- A text with its special characters as references. -/
def escaped (inAttribute : Bool) (s : List Char) : List Char :=
  s.flatMap fun c =>
    match c with
    | '&' => "&amp;".toList
    | '\u00A0' => "&nbsp;".toList
    | '"' => if inAttribute then "&quot;".toList else [c]
    | '<' => if inAttribute then [c] else "&lt;".toList
    | '>' => if inAttribute then [c] else "&gt;".toList
    | c => [c]

/-- The start tag of an element, with its attributes in the order of their names. -/
def startTag (name : String) (attrs : List (String × String)) : List Char :=
  let attrs := attrs.mergeSort fun a b => decide (a.1 ≤ b.1)
  '<' :: name.toList
    ++ attrs.flatMap (fun (k, v) => ' ' :: k.toList ++ ['=', '"'] ++ escaped true v.toList ++ ['"'])
    ++ ['>']

mutual

/-- The markup of a part; `raw` tells whether texts are written as they are. -/
def markup (raw : Bool) : Dom → List Char
  | text s => if raw then s else escaped false s
  | comment s => "<!--".toList ++ s ++ "-->".toList
  | element space name attrs children =>
    let isPlain := space == .page
    if isPlain && voidNames.contains name then startTag name attrs
    else
      startTag name attrs ++ markups (isPlain && rawNames.contains name) children
        ++ '<' :: '/' :: name.toList ++ ['>']

/-- The markup of some parts. -/
def markups (raw : Bool) : List Dom → List Char
  | [] => []
  | d :: rest => markup raw d ++ markups raw rest

end

/-- The markup of an element. -/
def outerMarkup (d : Dom) : List Char := markup false d

/-- The markup of what an element holds. -/
def innerMarkup (d : Dom) : List Char :=
  match d with
  | element space name _ children => markups (space == .page && rawNames.contains name) children
  | _ => []

end Dom

end ContextCompiler.Html
