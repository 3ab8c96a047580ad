import ContextCompiler.Html.Tree.Formatting

/-!
The page up to its body: document type, head, and what may stand around them.
-/

namespace ContextCompiler.Html

/-- The start tag or the text that a step has taken in anyway. -/
def Step.settled : Step → Builder
  | .done b => b
  | .again b => b

namespace Builder

/-- Whether a text is blank. -/
def isBlank (s : List Char) : Bool := s.all isTagBlank

/-- Opens an element that holds only text. -/
def openText (b : Builder) (name : String) (attrs : List (String × String)) (how : Reading) :
    Builder :=
  let b := b.opened name attrs
  { b with backTo := b.mode, mode := .inText, reading := how }

/-- The mode that fits the open elements, innermost first. -/
def fittingMode (b : Builder) : List Nat → Mode
  | [] => .inBody
  | id :: outer =>
    match b.nameOf id with
    | "select" =>
      let names := outer.map b.nameOf
      let table := names.takeWhile (· != "template")
      if table.contains "table" then .inTableSelect else .inSelect
    | "td" | "th" => if outer.isEmpty then .inBody else .inCell
    | "tr" => .inRow
    | "tbody" | "thead" | "tfoot" => .inRows
    | "caption" => .inCaption
    | "colgroup" => .inColumns
    | "table" => .inTable
    | "template" => b.templates.head?.getD .inBody
    | "body" => .inBody
    | "frameset" => .inFrames
    | "head" => if outer.isEmpty then .inBody else .inHead
    | "html" => if b.head.isSome then .afterHead else .inBody
    | _ => fittingMode b outer

/-- Goes to the mode that fits the open elements. -/
def resetMode (b : Builder) : Builder := { b with mode := b.fittingMode b.stack }

/-- Opens a template. -/
def openTemplate (b : Builder) (attrs : List (String × String)) : Builder :=
  { ((b.opened "template" attrs).mark).withoutFrames with
    mode := .inTemplate
    templates := .inTemplate :: b.templates }

/-- Closes the innermost template, if there is one. -/
def closeTemplate (b : Builder) : Builder :=
  if b.isOpen "template" then
    let b := (b.popThrough ["template"]).forgetToMark
    { b with templates := b.templates.drop 1 }.resetMode
  else b

/-- Takes a piece that says nothing about where it stands: comments, document types and later start
tags of the page. -/
def takeAside (b : Builder) (t : Token) (otherwise : Step) : Step :=
  match t with
  | .comment s => .done (b.addComment s)
  | .doctype _ => .done b
  | .open_ "html" attrs _ => .done (b.addPageAttrs attrs)
  | _ => otherwise

/-- A piece before anything was said about the page. -/
def atStart (b : Builder) (t : Token) : Step :=
  let go : Step := .again { b with mode := .beforeHtml, isOldStyle := true }
  match t with
  | .text s => if isBlank s then .done b else go
  | .comment s => .done (b.addCommentTo 0 s)
  | .doctype isOldStyle => .done { b with mode := .beforeHtml, isOldStyle := isOldStyle }
  | _ => go

/-- Whether an end tag opens the parts that come before the page's body. -/
def opensParts (name : String) : Bool := ["head", "body", "html", "br"].contains name

/-- A piece before the page. -/
def atBeforeHtml (b : Builder) (t : Token) : Step :=
  let go : Step := .again { b.opened "html" [] with mode := .beforeHead }
  match t with
  | .text s => if isBlank s then .done b else go
  | .comment s => .done (b.addCommentTo 0 s)
  | .doctype _ => .done b
  | .open_ "html" attrs _ => .done { b.opened "html" attrs with mode := .beforeHead }
  | .close name => if opensParts name then go else .done b
  | _ => go

/-- Opens the head. -/
def openHead (b : Builder) (attrs : List (String × String)) : Builder :=
  let b := b.opened "head" attrs
  { b with head := some b.current, mode := .inHead }

/-- A piece before the head. -/
def atBeforeHead (b : Builder) (t : Token) : Step :=
  b.takeAside t <|
    match t with
    | .text s => if isBlank s then .done b else .again (b.openHead [])
    | .open_ "head" attrs _ => .done (b.openHead attrs)
    | .close name => if opensParts name then .again (b.openHead []) else .done b
    | _ => .again (b.openHead [])

/-- A piece in the head. -/
def atInHead (b : Builder) (t : Token) : Step :=
  let leave : Step := .again { b.pop with mode := .afterHead }
  b.takeAside t <|
    match t with
    | .text s => if isBlank s then .done (b.addText s) else leave
    | .open_ name attrs _ =>
      match name with
      | "head" => .done b
      | "base" | "basefont" | "bgsound" | "link" | "meta" => .done (b.addVoid name attrs)
      | "title" => .done (b.openText name attrs (.escapable name))
      | "noframes" | "style" | "noscript" => .done (b.openText name attrs (.raw name))
      | "script" => .done (b.openText name attrs .script)
      | "template" => .done (b.openTemplate attrs)
      | _ => leave
    | .close name =>
      match name with
      | "head" => .done { b.pop with mode := .afterHead }
      | "template" => .done b.closeTemplate
      | _ => if opensParts name then leave else .done b
    | _ => leave

/-- Whether an element belongs into the head. -/
def isHeadName (name : String) : Bool :=
  ["base", "basefont", "bgsound", "link", "meta", "noframes", "script", "style", "template",
   "title"].contains name

/-- A piece between head and body. -/
def atAfterHead (b : Builder) (t : Token) : Step :=
  let go : Step := .again { b.opened "body" [] with mode := .inBody }
  b.takeAside t <|
    match t with
    | .text s => if isBlank s then .done (b.addText s) else go
    | .open_ name attrs _ =>
      if name == "head" then .done b
      else if name == "body" then
        .done { (b.opened "body" attrs).withoutFrames with mode := .inBody }
      else if name == "frameset" then .done { b.opened "frameset" attrs with mode := .inFrames }
      else if isHeadName name then
        match b.head with
        | some head =>
          let b := (atInHead { b with stack := head :: b.stack } t).settled
          .done { b with stack := b.stack.filter (· != head) }
        | none => go
      else go
    | .close name =>
      if name == "template" then .done b.closeTemplate
      else if ["body", "html", "br"].contains name then go
      else .done b
    | _ => go

end Builder

end ContextCompiler.Html
