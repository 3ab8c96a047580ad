import ContextCompiler.Html.Tree.Foreign

/-!
From the pieces of a page to its tree, along the standard's insertion modes.
-/

namespace ContextCompiler.Html

namespace Builder

/-- What the mode of the tree makes of a piece that is taken as a part of the page. -/
def stepInPage (b : Builder) (t : Token) : Step :=
  match b.mode with
  | .start => b.atStart t
  | .beforeHtml => b.atBeforeHtml t
  | .beforeHead => b.atBeforeHead t
  | .inHead => b.atInHead t
  | .afterHead => b.atAfterHead t
  | .inBody => b.atInBody t
  | .inText => b.atInText t
  | .inTable => b.atInTable t
  | .inTableText => b.atInTableText t
  | .inCaption => b.atInCaption t
  | .inColumns => b.atInColumns t
  | .inRows => b.atInRows t
  | .inRow => b.atInRow t
  | .inCell => b.atInCell t
  | .inSelect => b.atInSelect t
  | .inTableSelect => b.atInTableSelect t
  | .inTemplate => b.atInTemplate t
  | .inFrames => b.atInFrames t
  | .afterBody => b.atAfterBody t
  | .afterFrames => b.atAfterFrames t
  | .afterPage => b.atAfterPage t
  | .afterFramesPage => b.atAfterFramesPage t

/-- What the tree makes of a piece. -/
def step (b : Builder) (t : Token) : Step :=
  if b.takesAsForeign t then b.atForeign t fun b => b.stepInPage t else b.stepInPage t

/-- Takes a piece in. It is handed on from mode to mode at most `fuel` times. -/
def take (t : Token) : Nat → Builder → Builder
  | 0, b => b
  | fuel + 1, b =>
    match b.step t with
    | .done b => b
    | .again b => take t fuel b

/-- Whether a mode treats blanks in a text apart. -/
def partsBlanks (m : Mode) : Bool :=
  [Mode.start, .beforeHtml, .beforeHead, .inHead, .afterHead, .inColumns, .inFrames, .afterBody,
   .afterFrames, .afterPage, .afterFramesPage].contains m

/-- Takes a text in. Where the mode treats blanks apart, the runs of blanks and of other
characters count as texts of their own. `fuel` bounds the number of runs. -/
def takeRuns (b : Builder) : Nat → List Char → Builder
  | 0, _ => b
  | _ + 1, [] => b
  | fuel + 1, c :: s =>
    if partsBlanks b.mode then
      let (run, rest) := (c :: s).span fun d => isTagBlank d == isTagBlank c
      takeRuns (b.take (.text run) 40) fuel rest
    else b.take (.text (c :: s)) 40

/-- Takes a piece in. -/
def takeIn (b : Builder) (t : Token) : Builder :=
  let skips := b.skipsFeed
  let b := { b with skipsFeed := false }
  match t with
  | .text s =>
    match skips, s with
    | true, '\n' :: s => b.takeRuns (s.length + 1) s
    | _, s => b.takeRuns (s.length + 1) s
  | t => b.take t 40

/-- Takes all pieces of a text in. `fuel` bounds their number. -/
def takeAll (b : Builder) : Nat → List Char → Builder
  | 0, _ => b
  | _ + 1, [] => b
  | fuel + 1, c :: s =>
    let (t, rest) := readToken b.reading (b.isForeign b.current) (c :: s)
    takeAll (b.takeIn t) fuel rest

end Builder

/-- The parts at the top of a whole page. -/
def readPage (text : String) : List Dom :=
  let s := normalized text.toList
  ((Builder.empty.takeAll (s.length + 1) s).takeIn .stop).tops

/-- The parts of a piece of a page. -/
def readFragment (text : String) : List Dom :=
  let s := normalized text.toList
  let b : Builder := { (Builder.empty.opened "html" []) with mode := .inBody }
  match ((b.takeAll (s.length + 1) s).takeIn .stop).tops with
  | [.element _ _ _ children] => children
  | parts => parts

end ContextCompiler.Html
