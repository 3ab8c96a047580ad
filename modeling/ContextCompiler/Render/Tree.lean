import ContextCompiler.Number.Double
import ContextCompiler.Text.Search

/-!
Paths as an indented tree.

The paths of a listing are put into a tree of segments, whose children are in the order of
their names, and the tree is written one segment a line. A file shows its size when it has one.
-/

namespace ContextCompiler.Render

/-- A segment with what lies below it. -/
inductive PathTree where
  | node (size : Option Nat) (children : List (String × PathTree))

namespace PathTree

/-- A segment nothing is known of. -/
def leaf : PathTree := node none []

/-- Changes the child of a name, or puts a new one at its place in the order. -/
def updateChild (name : String) (f : PathTree → PathTree) :
    List (String × PathTree) → List (String × PathTree)
  | [] => [(name, f leaf)]
  | (other, child) :: rest =>
    if name < other then (name, f leaf) :: (other, child) :: rest
    else if name = other then (name, f child) :: rest
    else (other, child) :: updateChild name f rest

/-- Adds a path with its size; a later size of the same path replaces an earlier one. -/
def insert (size : Option Nat) : List String → PathTree → PathTree
  | [], node _ children => node size children
  | name :: path, node old children => node old (updateChild name (insert size path) children)

/-- The segments of a path; empty ones and those that stand for the same place do not count. -/
def segments (path : String) : List String :=
  (Text.split '/' path).filter fun s => s != "" && s != "."

/-- The tree of a listing. -/
def ofEntries (entries : List (String × Option Nat)) : PathTree :=
  entries.foldl (fun t e => t.insert e.2 (segments e.1)) leaf

end PathTree

/-- Names of the units of size, each 1024 times the one before. -/
def sizeUnits : List String := ["B", "KB", "MB", "GB"]

/-- The number of times a size can be divided by 1024 and stay at least 1, up to `n` times. -/
def sizeUnit : Nat → Nat → Nat
  | 0, _ => 0
  | n + 1, size => if 1024 ≤ size then sizeUnit n (size / 1024) + 1 else 0

/-- A size in bytes, or with one decimal place in the largest unit that gives at least 1. -/
def humanSize (bytes : Nat) : String :=
  let (num, den) := (Double.ofInt bytes).ratio
  let size := num / den
  let unit := sizeUnit 3 size
  if unit = 0 then toString bytes ++ " B"
  else
    let tenths := Number.roundDiv (size * 10) (Nat.pow 1024 unit)
    toString (tenths / 10) ++ "." ++ toString (tenths % 10) ++ " " ++ sizeUnits.getD unit ""

/-- What follows the name of a segment on its line. -/
def nameEnd : PathTree → String
  | .node size [] => match size with
    | some n => " (" ++ humanSize n ++ ")"
    | none => ""
  | .node _ (_ :: _) => "/"

mutual

/-- The lines below a segment. -/
def treeLines (indent : String) : PathTree → List String
  | .node _ children => childLines indent children

/-- The lines of the children of one segment. -/
def childLines (indent : String) : List (String × PathTree) → List String
  | [] => []
  | (name, child) :: rest =>
    let last := rest.isEmpty
    (indent ++ (if last then "└── " else "├── ") ++ name ++ nameEnd child)
      :: treeLines (indent ++ (if last then "    " else "│   ")) child
      ++ childLines indent rest

end

/-- A listing as a tree, one segment a line. -/
def renderTree (entries : List (String × Option Nat)) : String :=
  String.join ((treeLines "" (PathTree.ofEntries entries)).map (· ++ "\n"))

end ContextCompiler.Render
