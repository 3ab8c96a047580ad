import ContextCompiler.Html.Tree.Scope

/-!
Remembered elements: how elements of the formatting kind go on over badly nested tags.
-/

namespace ContextCompiler.Html

namespace Remembered

/-- Whether an entry stands for a numbered element. -/
def isFor (id : Nat) : Remembered → Bool
  | .mark => false
  | .element i _ _ => i == id

/-- Whether an entry is no mark. -/
def isElement : Remembered → Bool
  | .mark => false
  | .element .. => true

/-- Whether an entry is an element of a name with some attributes, in whatever order. -/
def isLike (name : String) (attrs : List (String × String)) : Remembered → Bool
  | .mark => false
  | .element _ n a =>
    n == name && a.length == attrs.length && a.all fun (k, v) => attrs.lookup k == some v

/-- Drops the last entry that satisfies `p`. -/
def dropLastWhere (p : Remembered → Bool) (rs : List Remembered) : List Remembered :=
  let (after, before) := rs.reverse.span (!p ·)
  (after ++ before.drop 1).reverse

end Remembered

namespace Builder

/-- Opens an element again and remembers it. -/
def reopened (b : Builder) (name : String) (attrs : List (String × String)) : Builder :=
  let b := b.opened name attrs
  { b with remembered := .element b.current name attrs :: b.remembered }

/-- Opens an element of the formatting kind. Of equal elements the latest three are remembered. -/
def openFormatting (b : Builder) (name : String) (attrs : List (String × String)) : Builder :=
  let (recent, older) := b.remembered.span Remembered.isElement
  let recent :=
    if 3 ≤ (recent.filter (Remembered.isLike name attrs)).length then
      Remembered.dropLastWhere (Remembered.isLike name attrs) recent
    else recent
  { b with remembered := recent ++ older }.reopened name attrs

/-- Marks a place that remembered elements do not reach over. -/
def mark (b : Builder) : Builder := { b with remembered := .mark :: b.remembered }

/-- Forgets the elements since the last mark, and the mark. -/
def forgetToMark (b : Builder) : Builder :=
  { b with remembered := (b.remembered.dropWhile Remembered.isElement).drop 1 }

/-- Forgets an element. -/
def forget (b : Builder) (id : Nat) : Builder :=
  { b with remembered := b.remembered.filter (!·.isFor id) }

/-- The latest remembered element of a name since the last mark. -/
def latest (name : String) : List Remembered → Option Nat
  | [] => none
  | .mark :: _ => none
  | .element id n _ :: rest => if n == name then some id else latest name rest

/-- The remembered elements that are to be opened again, latest first: those since the last mark
or the last that is still open. -/
def closedOnes (b : Builder) : List Remembered → List Remembered
  | [] => []
  | .mark :: _ => []
  | .element id n a :: rest =>
    if b.stack.contains id then [] else .element id n a :: closedOnes b rest

/-- Opens the remembered elements again that were closed. -/
def reopen (b : Builder) : Builder :=
  let again := b.closedOnes b.remembered
  let kept := b.remembered.drop again.length
  again.reverse.foldl (fun b r =>
    match r with
    | .mark => b
    | .element _ name attrs => b.reopened name attrs) { b with remembered := kept }

/-- Puts a new element where an old one was remembered. -/
def renew (old new : Nat) (rs : List Remembered) : List Remembered :=
  rs.map fun r =>
    match r with
    | .element id n a => if id == old then .element new n a else r
    | .mark => r

/-- The place of an element among the remembered ones, counted from the latest. -/
def rememberedIndex (b : Builder) (id : Nat) : Option Nat :=
  b.remembered.findIdx? fun r => r.isFor id

/-- A walk up the open elements from the block inside a formatting element: the last part that
was moved, the place among the remembered elements for the copy, and the tree. -/
structure Climb where
  tree : Builder
  last : Nat
  mark : Option Nat

/-- Copies the open elements between the block and the formatting element around the part that
was moved last. -/
def climb (block : Nat) : Nat → List Nat → Climb → Climb
  | _, [], c => c
  | n, id :: above, c =>
    let b := c.tree
    let isRemembered := (b.rememberedIndex id).isSome
    let b := if isRemembered && n ≥ 4 then b.forget id else b
    if !isRemembered || n ≥ 4 then
      climb block (n + 1) above { c with tree := { b with stack := b.stack.filter (· != id) } }
    else
      let (b, copy) := b.make (.element .page (b.nameOf id) (b.attrsOf id))
      let b := { b with
        remembered := renew id copy b.remembered
        stack := b.stack.map fun i => if i == id then copy else i }
      let mark := if c.last == block then some copy else c.mark
      let b := (b.detach c.last).attach c.last ⟨copy, none⟩
      climb block (n + 1) above ⟨b, copy, mark⟩

/-- Closes a formatting element that other elements reach out of, up to `fuel` times. -/
def adopt (name : String) : Nat → Builder → Builder
  | 0, b => b
  | fuel + 1, b =>
    match latest name b.remembered with
    | none => b.closeOther name
    | some fe =>
      if !b.stack.contains fe then b.forget fe
      else if !b.hasInScope fe then b
      else
        let inner := b.stack.takeWhile (· != fe)
        match (inner.filter b.isSpecial).getLast? with
        | none =>
          let b := b.forget fe
          { b with stack := (b.stack.dropWhile (· != fe)).drop 1 }
        | some block =>
          let ancestor := ((b.stack.dropWhile (· != fe)).drop 1).head?.getD 0
          let between := (inner.dropWhile (· != block)).drop 1
          let c := climb block 1 between ⟨b, block, none⟩
          let b := c.tree.detach c.last
          let b := b.attach c.last (b.placeIn ancestor)
          let (b, copy) := b.make (.element .page (b.nameOf fe) (b.attrsOf fe))
          let held := ((b.entries[block]?).map Entry.children).getD []
          let b := held.foldl (fun b id => (b.detach id).attach id ⟨copy, none⟩) b
          let b := b.attach copy ⟨block, none⟩
          let entry := Remembered.element copy (b.nameOf fe) (b.attrsOf fe)
          let b :=
            match c.mark with
            | none => { b with remembered := renew fe copy b.remembered }
            | some m =>
              let b := b.forget fe
              let k := (b.rememberedIndex m).getD 0
              { b with remembered := b.remembered.take k ++ entry :: b.remembered.drop k }
          let stack := b.stack.filter (· != fe)
          let stack := stack.takeWhile (· != block) ++ copy :: stack.dropWhile (· != block)
          adopt name fuel { b with stack := stack }

/-- Closes a formatting element. -/
def closeFormatting (b : Builder) (name : String) : Builder :=
  if b.currentName == name && (b.rememberedIndex b.current).isNone then b.pop
  else adopt name 8 b

/-- Closes a link that is open when another one starts. -/
def closeOuterLink (b : Builder) : Builder :=
  match latest "a" b.remembered with
  | none => b
  | some id =>
    let b := (b.closeFormatting "a").forget id
    { b with stack := b.stack.filter (· != id) }

end Builder

end ContextCompiler.Html
