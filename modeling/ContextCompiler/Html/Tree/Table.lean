import ContextCompiler.Html.Tree.Body

/-!
Tables, option lists and templates.
-/

namespace ContextCompiler.Html.Builder

/-- A piece that does not belong into a table goes in front of it. -/
def foster (b : Builder) (t : Token) : Step :=
  match atInBody { b with fosters := true } t with
  | .done b => .done { b with fosters := false }
  | .again b => .again { b with fosters := false }

/-- The groups of rows, rows and cells of a table. -/
def tableInner : List String := ["tbody", "td", "tfoot", "th", "thead", "tr"]

/-- A text in a table. -/
def textInTable (b : Builder) (t : Token) : Step :=
  if tableParts.contains b.currentName then
    .again { b with tableText := [], backTo := b.mode, mode := .inTableText }
  else b.foster t

/-- A piece in a table. -/
def atInTable (b : Builder) (t : Token) : Step :=
  let clear (b : Builder) : Builder := b.popTo ["table", "template", "html"]
  match t with
  | .text _ => b.textInTable t
  | .null => b.textInTable t
  | .comment s => .done (b.addComment s)
  | .doctype _ => .done b
  | .stop => .done b
  | .open_ name attrs _ =>
    match name with
    | "caption" => .done { ((clear b).mark).opened name attrs with mode := .inCaption }
    | "colgroup" => .done { (clear b).opened name attrs with mode := .inColumns }
    | "col" => .again { (clear b).opened "colgroup" [] with mode := .inColumns }
    | "tbody" | "tfoot" | "thead" => .done { (clear b).opened name attrs with mode := .inRows }
    | "td" | "th" | "tr" => .again { (clear b).opened "tbody" [] with mode := .inRows }
    | "table" =>
      if b.inTableScope ["table"] then .again ((b.popThrough ["table"]).resetMode) else .done b
    | "style" | "script" | "template" => .done (b.atInHead t).settled
    | "input" => if isHiddenInput attrs then .done (b.addVoid name attrs) else b.foster t
    | "form" =>
      if b.form.isSome || b.isOpen "template" then .done b
      else
        let b := b.opened name attrs
        .done { b with form := some b.current }.pop
    | _ => b.foster t
  | .close name =>
    match name with
    | "table" =>
      if b.inTableScope ["table"] then .done ((b.popThrough ["table"]).resetMode) else .done b
    | "body" | "caption" | "col" | "colgroup" | "html" | "tbody" | "td" | "tfoot" | "th" | "thead"
    | "tr" => .done b
    | "template" => .done b.closeTemplate
    | _ => b.foster t

/-- A piece in the text of a table. -/
def atInTableText (b : Builder) : Token → Step
  | .text s => .done { b with tableText := b.tableText ++ s }
  | .null => .done b
  | _ =>
    let s := b.tableText
    let b := { b with tableText := [], mode := b.backTo }
    if isBlank s then .again (b.addText s) else .again (b.foster (.text s)).settled

/-- A piece in the caption of a table. -/
def atInCaption (b : Builder) (t : Token) : Step :=
  let leave : Option Builder :=
    if b.inTableScope ["caption"] then
      some { ((b.closeImplied "").popThrough ["caption"]).forgetToMark with mode := .inTable }
    else none
  let leaveAgain : Step :=
    match leave with
    | some b => .again b
    | none => .done b
  match t with
  | .close "caption" => .done (leave.getD b)
  | .close "table" => leaveAgain
  | .close name =>
    if ["body", "col", "colgroup", "html"].contains name || tableInner.contains name then .done b
    else b.atInBody t
  | .open_ name _ _ =>
    if ["caption", "col", "colgroup"].contains name || tableInner.contains name then leaveAgain
    else b.atInBody t
  | t => b.atInBody t

/-- A piece among the columns of a table. -/
def atInColumns (b : Builder) (t : Token) : Step :=
  let inGroup := b.currentName == "colgroup"
  let leave : Step := if inGroup then .again { b.pop with mode := .inTable } else .done b
  b.takeAside t <|
    match t with
    | .text s => if isBlank s then .done (b.addText s) else leave
    | .stop => .done b
    | .open_ "col" attrs _ => .done (b.addVoid "col" attrs)
    | .open_ "template" attrs _ => .done (b.openTemplate attrs)
    | .close "template" => .done b.closeTemplate
    | .close "colgroup" => .done (if inGroup then { b.pop with mode := .inTable } else b)
    | .close "col" => .done b
    | _ => leave

/-- A piece among the rows of a table. -/
def atInRows (b : Builder) (t : Token) : Step :=
  let clear (b : Builder) : Builder := b.popTo ["tbody", "tfoot", "thead", "template", "html"]
  let groups := ["tbody", "tfoot", "thead"]
  let leave : Step :=
    if b.inTableScope ("table" :: groups) then .again { (clear b).pop with mode := .inTable }
    else .done b
  match t with
  | .open_ "tr" attrs _ => .done { (clear b).opened "tr" attrs with mode := .inRow }
  | .open_ name _ _ =>
    if name == "td" || name == "th" then .again { (clear b).opened "tr" [] with mode := .inRow }
    else if ["caption", "col", "colgroup"].contains name || groups.contains name then leave
    else b.atInTable t
  | .close name =>
    if groups.contains name then
      .done (if b.inTableScope [name] then { (clear b).pop with mode := .inTable } else b)
    else if name == "table" then leave
    else if ["body", "caption", "col", "colgroup", "html", "td", "th", "tr"].contains name then
      .done b
    else b.atInTable t
  | t => b.atInTable t

/-- A piece in a row. -/
def atInRow (b : Builder) (t : Token) : Step :=
  let clear (b : Builder) : Builder := b.popTo ["tr", "template", "html"]
  let out : Builder := { (clear b).pop with mode := .inRows }
  let leave : Step := if b.inTableScope ["tr"] then .again out else .done b
  match t with
  | .open_ name attrs _ =>
    if name == "td" || name == "th" then
      .done { ((clear b).opened name attrs).mark with mode := .inCell }
    else if ["caption", "col", "colgroup", "tbody", "tfoot", "thead", "tr"].contains name then leave
    else b.atInTable t
  | .close name =>
    if name == "tr" then .done (if b.inTableScope ["tr"] then out else b)
    else if name == "table" then leave
    else if ["tbody", "tfoot", "thead"].contains name then
      if b.inTableScope [name] then leave else .done b
    else if ["body", "caption", "col", "colgroup", "html", "td", "th"].contains name then .done b
    else b.atInTable t
  | t => b.atInTable t

/-- A piece in a cell. -/
def atInCell (b : Builder) (t : Token) : Step :=
  let out (names : List String) : Builder :=
    { ((b.closeImplied "").popThrough names).forgetToMark with mode := .inRow }
  match t with
  | .close name =>
    if name == "td" || name == "th" then
      .done (if b.inTableScope [name] then out [name] else b)
    else if ["body", "caption", "col", "colgroup", "html"].contains name then .done b
    else if tableParts.contains name then
      if b.inTableScope [name] then .again (out ["td", "th"]) else .done b
    else b.atInBody t
  | .open_ name _ _ =>
    if ["caption", "col", "colgroup"].contains name || tableInner.contains name then
      if b.inTableScope ["td", "th"] then .again (out ["td", "th"]) else .done b
    else b.atInBody t
  | t => b.atInBody t

/-! ## Option lists -/

/-- Closes the innermost option list. -/
def closeSelect (b : Builder) : Builder := (b.popThrough ["select"]).resetMode

/-- Closes the innermost element if it has the name. -/
def popIf (b : Builder) (name : String) : Builder := if b.currentName == name then b.pop else b

/-- A piece in an option list. -/
def atInSelect (b : Builder) (t : Token) : Step :=
  b.takeAside t <|
    match t with
    | .text s => .done (b.addText s)
    | .open_ name attrs _ =>
      match name with
      | "option" => .done ((b.popIf "option").opened name attrs)
      | "optgroup" => .done (((b.popIf "option").popIf "optgroup").opened name attrs)
      | "hr" => .done (((b.popIf "option").popIf "optgroup").addVoid name attrs)
      | "select" => .done (if b.inSelectScope then b.closeSelect else b)
      | "input" | "keygen" | "textarea" =>
        if b.inSelectScope then .again b.closeSelect else .done b
      | "script" | "template" => .done (b.atInHead t).settled
      | _ => .done b
    | .close name =>
      match name with
      | "optgroup" =>
        let isInGroup := (b.stack.drop 1).head?.any fun id => b.nameOf id == "optgroup"
        .done ((if isInGroup then b.popIf "option" else b).popIf "optgroup")
      | "option" => .done (b.popIf "option")
      | "select" => .done (if b.inSelectScope then b.closeSelect else b)
      | "template" => .done b.closeTemplate
      | _ => .done b
    | _ => .done b

/-- A piece in an option list in a table. -/
def atInTableSelect (b : Builder) (t : Token) : Step :=
  let names := ["caption", "table", "tbody", "tfoot", "thead", "tr", "td", "th"]
  match t with
  | .open_ name _ _ => if names.contains name then .again b.closeSelect else b.atInSelect t
  | .close name =>
    if names.contains name then
      if b.inTableScope [name] then .again b.closeSelect else .done b
    else b.atInSelect t
  | t => b.atInSelect t

/-! ## Templates -/

/-- A piece in a template. The first start tag of some kind tells what the template holds. -/
def atInTemplate (b : Builder) (t : Token) : Step :=
  let holds (m : Mode) : Step := .again { b with mode := m, templates := m :: b.templates.drop 1 }
  match t with
  | .open_ name _ _ =>
    if isHeadName name then .done (b.atInHead t).settled
    else if ["caption", "colgroup", "tbody", "tfoot", "thead"].contains name then holds .inTable
    else if name == "col" then holds .inColumns
    else if name == "tr" then holds .inRows
    else if name == "td" || name == "th" then holds .inRow
    else holds .inBody
  | .close "template" => .done b.closeTemplate
  | .close _ => .done b
  | .null => .done b
  | t => b.atInBody t

end ContextCompiler.Html.Builder
