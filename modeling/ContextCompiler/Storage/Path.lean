import ContextCompiler.Text.Search

/-!
Paths of files.

A path is a text whose parts are separated by slashes. Empty parts do not count, and neither
do parts that are a single point, except for the first one of a relative path. Two paths are the
same when their parts are.
-/

namespace ContextCompiler.Path

/-- A part of a path. -/
inductive Part where
  | root
  | here
  | up
  | name (s : String)
  deriving DecidableEq, Repr

namespace Part

/-- A part as text. -/
def text : Part → String
  | root => "/"
  | here => "."
  | up => ".."
  | name s => s

end Part

/-- Whether a path starts at the root. -/
def isAbsolute (p : String) : Bool := p.toList.head? == some '/'

/-- The part that a piece between slashes stands for, if it counts. -/
def partOf? (first : Bool) (piece : String) : Option Part :=
  if piece == "" then none
  else if piece == "." then if first then some .here else none
  else if piece == ".." then some .up
  else some (.name piece)

/-- The parts of a path. -/
def parts (p : String) : List Part :=
  match Text.split '/' p with
  | [] => []
  | piece :: rest =>
    if isAbsolute p then .root :: rest.filterMap (partOf? false)
    else (partOf? true piece).toList ++ rest.filterMap (partOf? false)

/-- The path of a list of parts, in its plainest form. -/
def ofParts : List Part → String
  | .root :: rest => "/" ++ Text.join "/" (rest.map Part.text)
  | parts => Text.join "/" (parts.map Part.text)

/-- Whether two paths have the same parts. -/
def same (p q : String) : Bool := parts p == parts q

/-- A path under a directory; an absolute path stays as it is. -/
def join (dir p : String) : String :=
  if isAbsolute p then p
  else if dir == "" || Text.hasSuffix "/" dir then dir ++ p
  else dir ++ "/" ++ p

/-- The last part, when it is a name. -/
def fileName? (p : String) : Option String :=
  match (parts p).getLast? with
  | some (.name s) => some s
  | _ => none

/-- What follows the last point of the file name, if something stands before that point. -/
def extension? (p : String) : Option String := do
  let name ← fileName? p
  match Text.splitLast ['.'] name.toList with
  | some ([], _) => none
  | some (_, ext) => some (String.ofList ext)
  | none => none

/-- Drops slashes, and pieces that do not count, from the end of a path. Works on the reversed
path; `fuel` bounds the number of pieces. -/
def dropIdleEnd : Nat → List Char → List Char
  | 0, s => s
  | _ + 1, ['/'] => ['/']
  | n + 1, '/' :: s => dropIdleEnd n s
  | _ + 1, ['.', '/'] => ['/']
  | n + 1, '.' :: '/' :: s => dropIdleEnd n s
  | _ + 1, s => s

/-- The path up to its last part, as it is written, if there is a part to leave off. -/
def parent? (p : String) : Option String :=
  match (parts p).getLast? with
  | none => none
  | some .root => none
  | some _ =>
    let cs := p.toList.reverse
    let trimmed := dropIdleEnd (cs.length + 1) cs
    let front := trimmed.dropWhile (· != '/')
    some (String.ofList (dropIdleEnd (front.length + 1) front).reverse)

/-- The parts of `p` below `dir`, if `p` lies there. -/
def below? (dir p : String) : Option (List Part) :=
  let d := parts dir
  let q := parts p
  if d.isPrefixOf q then some (q.drop d.length) else none

/-- Drops `./` from the start of a path as often as it stands there. -/
def dropHere : List Char → List Char
  | '.' :: '/' :: s => dropHere s
  | s => s

/-- Takes one more part to the end of others. -/
def takePart (out : List Part) : Part → List Part
  | .here => out
  | .up => if out.getLast? == some .root then out else out.dropLast
  | part => out ++ [part]

/-- The parts of a path with every step up taken, as far as there is something to leave. -/
def walkUp (ps : List Part) : List Part := ps.foldl takePart []

end ContextCompiler.Path
