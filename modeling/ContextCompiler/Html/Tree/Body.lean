import ContextCompiler.Html.Tree.Head

/-!
The body of a page: texts and elements, and what may stand after them.
-/

namespace ContextCompiler.Html.Builder

/-- The elements that form blocks of text. -/
def blockNames : List String :=
  ["address", "article", "aside", "blockquote", "center", "details", "dialog", "dir", "div", "dl",
   "fieldset", "figcaption", "figure", "footer", "header", "hgroup", "main", "menu", "nav", "ol",
   "p", "search", "section", "summary", "ul"]

/-- The headings. -/
def headingNames : List String := ["h1", "h2", "h3", "h4", "h5", "h6"]

/-- The elements of the formatting kind, but links. -/
def formattingNames : List String :=
  ["b", "big", "code", "em", "font", "i", "s", "small", "strike", "strong", "tt", "u"]

/-- Whether an input field is hidden. -/
def isHiddenInput (attrs : List (String × String)) : Bool :=
  (attrs.lookup "type").any fun v => Text.lowerAscii v == "hidden"

/-- A start tag in the body. -/
def openInBody (b : Builder) (name : String) (attrs : List (String × String)) (own : Bool) : Step :=
  if blockNames.contains name then .done (b.closeParagraph.opened name attrs)
  else if headingNames.contains name then
    let b := b.closeParagraph
    let b := if headingNames.contains b.currentName then b.pop else b
    .done (b.opened name attrs)
  else if formattingNames.contains name then .done (b.reopen.openFormatting name attrs)
  else if isHeadName name then .done (atInHead b (.open_ name attrs own)).settled
  else
    match name with
    | "html" => .done (b.addPageAttrs attrs)
    | "body" =>
      match b.body? with
      | some body =>
        .done (if b.isOpen "template" then b else (b.addAttrs body attrs).withoutFrames)
      | none => .done b
    | "frameset" =>
      match b.allowsFrames, b.body? with
      | true, some body =>
        let b := b.detach body
        let b := { b with stack := b.stack.drop (b.stack.length - 1) }
        .done { b.opened name attrs with mode := .inFrames }
      | _, _ => .done b
    | "caption" | "col" | "colgroup" | "frame" | "head" | "tbody" | "td" | "tfoot" | "th" | "thead"
    | "tr" => .done b
    | "pre" | "listing" =>
      .done { (b.closeParagraph.opened name attrs).withoutFrames with skipsFeed := true }
    | "form" =>
      let isInner := b.isOpen "template"
      if b.form.isSome && !isInner then .done b
      else
        let b := b.closeParagraph.opened name attrs
        .done (if isInner then b else { b with form := some b.current })
    | "li" => .done ((b.closeItem ["li"] b.stack).closeParagraph.opened name attrs).withoutFrames
    | "dd" | "dt" =>
      .done ((b.closeItem ["dd", "dt"] b.stack).closeParagraph.opened name attrs).withoutFrames
    | "plaintext" => .done { b.closeParagraph.opened name attrs with reading := .plain }
    | "button" =>
      let b := if b.inScope ["button"] then (b.closeImplied "").popThrough ["button"] else b
      .done (b.reopen.opened name attrs).withoutFrames
    | "a" => .done (b.closeOuterLink.reopen.openFormatting name attrs)
    | "nobr" =>
      let b := b.reopen
      let b := if b.inScope ["nobr"] then (b.closeFormatting "nobr").reopen else b
      .done (b.openFormatting name attrs)
    | "applet" | "marquee" | "object" => .done ((b.reopen.opened name attrs).mark).withoutFrames
    | "table" =>
      let b := if b.isOldStyle then b else b.closeParagraph
      .done { (b.opened name attrs).withoutFrames with mode := .inTable }
    | "area" | "br" | "embed" | "img" | "keygen" | "wbr" =>
      .done (b.reopen.addVoid name attrs).withoutFrames
    | "input" =>
      let b := b.reopen.addVoid name attrs
      .done (if isHiddenInput attrs then b else b.withoutFrames)
    | "param" | "source" | "track" => .done (b.addVoid name attrs)
    | "hr" => .done (b.closeParagraph.addVoid name attrs).withoutFrames
    | "image" => .done (b.reopen.addVoid "img" attrs).withoutFrames
    | "textarea" =>
      .done { (b.openText name attrs (.escapable name)).withoutFrames with skipsFeed := true }
    | "xmp" => .done (b.closeParagraph.reopen.openText name attrs (.raw name)).withoutFrames
    | "iframe" => .done (b.openText name attrs (.raw name)).withoutFrames
    | "noembed" | "noscript" => .done (b.openText name attrs (.raw name))
    | "select" =>
      let inTable := [Mode.inTable, .inCaption, .inRows, .inRow, .inCell].contains b.mode
      .done { (b.reopen.opened name attrs).withoutFrames with
        mode := if inTable then .inTableSelect else .inSelect }
    | "optgroup" | "option" =>
      let b := if b.currentName == "option" then b.pop else b
      .done (b.reopen.opened name attrs)
    | "rb" | "rtc" =>
      .done ((if b.inScope ["ruby"] then b.closeImplied "" else b).opened name attrs)
    | "rp" | "rt" =>
      .done ((if b.inScope ["ruby"] then b.closeImplied "rtc" else b).opened name attrs)
    | "math" =>
      let b := b.reopen.openElement .formula name attrs
      .done (if own then b.pop else b)
    | "svg" =>
      let b := b.reopen.openElement .drawing name attrs
      .done (if own then b.pop else b)
    | _ => .done (b.reopen.opened name attrs)

/-- The end tag of a form. -/
def closeForm (b : Builder) : Builder :=
  if b.isOpen "template" then
    if b.inScope ["form"] then (b.closeImplied "").popThrough ["form"] else b
  else
    match b.form with
    | none => b
    | some id =>
      let b := { b with form := none }
      if b.hasInScope id then
        let b := b.closeImplied ""
        { b with stack := b.stack.filter (· != id) }
      else b

/-- An end tag in the body. -/
def closeInBody (b : Builder) (name : String) : Step :=
  if name == "p" then
    .done (if b.inParagraph then b.closeParagraph else (b.opened "p" []).closeParagraph)
  else if blockNames.contains name || ["pre", "listing", "button"].contains name then
    .done (if b.inScope [name] then (b.closeImplied "").popThrough [name] else b)
  else if headingNames.contains name then
    .done (if b.inScope headingNames then (b.closeImplied "").popThrough headingNames else b)
  else if formattingNames.contains name || name == "a" || name == "nobr" then
    .done (b.closeFormatting name)
  else
    match name with
    | "template" => .done b.closeTemplate
    | "body" => .done (if b.inScope ["body"] then { b with mode := .afterBody } else b)
    | "html" => if b.inScope ["body"] then .again { b with mode := .afterBody } else .done b
    | "form" => .done b.closeForm
    | "li" =>
      .done (if b.inNarrowScope ["ol", "ul"] "li" then (b.closeImplied "li").popThrough ["li"]
        else b)
    | "dd" | "dt" =>
      .done (if b.inScope [name] then (b.closeImplied name).popThrough [name] else b)
    | "applet" | "marquee" | "object" =>
      .done (if b.inScope [name] then ((b.closeImplied "").popThrough [name]).forgetToMark else b)
    | "br" => .done (b.reopen.addVoid "br" []).withoutFrames
    | _ => .done (b.closeOther name)

/-- A piece in the body. -/
def atInBody (b : Builder) : Token → Step
  | .text s =>
    let b := b.reopen.addText s
    .done (if isBlank s then b else b.withoutFrames)
  | .null => .done b
  | .comment s => .done (b.addComment s)
  | .doctype _ => .done b
  | .stop => .done b
  | .open_ name attrs own => b.openInBody name attrs own
  | .close name => b.closeInBody name

/-- A piece inside an element that holds only text. -/
def atInText (b : Builder) : Token → Step
  | .text s => .done (b.addText s)
  | .close _ => .done { b.pop with mode := b.backTo, reading := .markup }
  | _ => .again { b.pop with mode := b.backTo, reading := .markup }

/-- A piece after the body. -/
def atAfterBody (b : Builder) (t : Token) : Step :=
  match t with
  | .text s => if isBlank s then b.atInBody t else .again { b with mode := .inBody }
  | .comment s => .done (b.addCommentTo (b.stack.getLast?.getD 0) s)
  | .doctype _ => .done b
  | .stop => .done b
  | .open_ "html" attrs _ => .done (b.addPageAttrs attrs)
  | .close "html" => .done { b with mode := .afterPage }
  | _ => .again { b with mode := .inBody }

/-- A piece after the page. -/
def atAfterPage (b : Builder) (t : Token) : Step :=
  match t with
  | .text s => if isBlank s then b.atInBody t else .again { b with mode := .inBody }
  | .comment s => .done (b.addCommentTo 0 s)
  | .doctype _ => .done b
  | .stop => .done b
  | .open_ "html" attrs _ => .done (b.addPageAttrs attrs)
  | _ => .again { b with mode := .inBody }

/-! ## Frames -/

/-- A piece among the frames of a page. -/
def atInFrames (b : Builder) (t : Token) : Step :=
  b.takeAside t <|
    match t with
    | .text s => .done (if isBlank s then b.addText s else b)
    | .open_ "frameset" attrs _ => .done (b.opened "frameset" attrs)
    | .open_ "frame" attrs _ => .done (b.addVoid "frame" attrs)
    | .open_ "noframes" _ _ => .done (b.atInHead t).settled
    | .close "frameset" =>
      if b.stack.length ≤ 1 then .done b
      else
        let b := b.pop
        .done (if b.currentName == "frameset" then b else { b with mode := .afterFrames })
    | _ => .done b

/-- A piece after the frames of a page. -/
def atAfterFrames (b : Builder) (t : Token) : Step :=
  b.takeAside t <|
    match t with
    | .text s => .done (if isBlank s then b.addText s else b)
    | .open_ "noframes" _ _ => .done (b.atInHead t).settled
    | .close "html" => .done { b with mode := .afterFramesPage }
    | _ => .done b

/-- A piece after a page of frames. -/
def atAfterFramesPage (b : Builder) (t : Token) : Step :=
  match t with
  | .text s => .done (if isBlank s then (b.atInBody t).settled else b)
  | .comment s => .done (b.addCommentTo 0 s)
  | .open_ "html" attrs _ => .done (b.addPageAttrs attrs)
  | .open_ "noframes" _ _ => .done (b.atInHead t).settled
  | _ => .done b

end ContextCompiler.Html.Builder
