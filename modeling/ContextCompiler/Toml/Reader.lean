import ContextCompiler.Toml.Scalar

/-!
Reading texts in TOML.

The lines of a text build a tree of tables. A table is opened once by its header; tables that
only stand on the way to others may still be opened, and those that were made by keys with points
may only be extended by such keys.
-/

namespace ContextCompiler.Toml

/-- How a table came about. -/
inductive TableKind where
  /-- By its header. -/
  | header
  /-- On the way to a table below it. -/
  | way
  /-- On the way to a key with points. -/
  | dotted
  deriving DecidableEq, Repr

/-- What a key stands for. -/
inductive Item where
  | leaf (n : Node)
  | table (kind : TableKind) (entries : List (String × Item))
  | tables (list : List (List (String × Item)))

/-- A table that is being built. -/
abbrev Entries := List (String × Item)

/-- Replaces the item of a key, or adds it at the end. -/
def putItem (k : String) (v : Item) : Entries → Entries
  | [] => [(k, v)]
  | (j, w) :: rest => if j == k then (j, v) :: rest else (j, w) :: putItem k v rest

/-- Changes the table at the end of a path; missing tables on the way are made. `inside` tells
whether the path belongs to a key with points. -/
def changeAt (inside : Bool) (f : TableKind → Entries → Option Entries) :
    List String → TableKind → Entries → Option Entries
  | [], kind, es => f kind es
  | k :: path, _, es =>
    match es.lookup k with
    | none => do
      let kind := if inside then TableKind.dotted else .way
      let sub ← changeAt inside f path kind []
      some (putItem k (.table kind sub) es)
    | some (.table kind sub) =>
      if inside && kind == .header then none
      else do
        let sub ← changeAt inside f path kind sub
        some (putItem k (.table kind sub) es)
    | some (.tables list) =>
      match list.getLast? with
      | none => none
      | some last => do
        let sub ← changeAt inside f path .header last
        some (putItem k (.tables (list.dropLast ++ [sub])) es)
    | some (.leaf _) => none

/-- The path without its last part, and the last part. -/
def splitPath (path : List String) : List String × String := (path.dropLast, path.getLastD "")

/-- Opens the table of a header. -/
def openTable (path : List String) (root : Entries) : Option Entries :=
  let (way, k) := splitPath path
  changeAt false (fun _ es =>
    match es.lookup k with
    | none => some (es ++ [(k, .table .header [])])
    | some (.table .way sub) => some (putItem k (.table .header sub) es)
    | some _ => none) way .header root

/-- Adds a table to the list of a header in double brackets. -/
def addTable (path : List String) (root : Entries) : Option Entries :=
  let (way, k) := splitPath path
  changeAt false (fun _ es =>
    match es.lookup k with
    | none => some (es ++ [(k, .tables [[]])])
    | some (.tables list) => some (putItem k (.tables (list ++ [[]])) es)
    | some _ => none) way .header root

/-- Sets a key, given by its parts, within a table. -/
def setKey (path : List String) (v : Node) (kind : TableKind) (es : Entries) : Option Entries :=
  let (way, k) := splitPath path
  changeAt true (fun kind es =>
    if !way.isEmpty && kind != .dotted then none
    else
      match es.lookup k with
      | none => some (es ++ [(k, .leaf v)])
      | some _ => none) way kind es

mutual

/-- The node of an item. -/
def Item.node : Item → Node
  | .leaf n => n
  | .table _ es => .map (entryNodes es) none
  | .tables list => .seq (tableNodes list) none

/-- The nodes of the entries of a table. -/
def entryNodes : List (String × Item) → List (Node × Node)
  | [] => []
  | (k, v) :: rest => (.str k, v.node) :: entryNodes rest

/-- The nodes of a list of tables. -/
def tableNodes : List (List (String × Item)) → List Node
  | [] => []
  | es :: rest => .map (entryNodes es) none :: tableNodes rest

end

/-- Drops a comment. -/
def dropComment? (s : List Char) : Option (List Char) :=
  match s with
  | '#' :: s =>
    let rest := s.dropWhile fun c => !isControl c
    match rest with
    | [] => some []
    | _ => (dropNewline? rest).map fun _ => rest
  | s => some s

/-- Drops blanks, line breaks and comments. -/
def dropGaps? : Nat → List Char → Option (List Char)
  | 0, s => some s
  | n + 1, s =>
    match s.dropWhile isGap with
    | '#' :: s => (dropComment? ('#' :: s)).bind (dropGaps? n)
    | s =>
      match dropNewline? s with
      | some s => dropGaps? n s
      | none => some s

mutual

/-- Reads a value. -/
def value? (depth : Nat) : Nat → List Char → Option (Node × List Char)
  | 0, _ => none
  | fuel + 1, s =>
    let isDeep := maxDepth ≤ depth
    match s with
    | '"' :: _ => (string? s).map fun (t, s) => (.str (String.ofList t), s)
    | '\'' :: _ => (string? s).map fun (t, s) => (.str (String.ofList t), s)
    | '[' :: s => if isDeep then none else array? (depth + 1) fuel [] s
    | '\x7b' :: s =>
      if isDeep then none
      else
        match s.dropWhile isGap with
        | '\x7d' :: s => some (.map [] none, s)
        | s => inline? (depth + 1) fuel [] s
    | s => word? s
termination_by structural n => n

/-- Reads the values of an array up to its end. -/
def array? (depth : Nat) : Nat → List Node → List Char → Option (Node × List Char)
  | 0, _, _ => none
  | fuel + 1, out, s =>
    match dropGaps? s.length s with
    | none => none
    | some (']' :: s) => some (.seq out.reverse none, s)
    | some s =>
      match value? depth fuel s with
      | none => none
      | some (v, s) =>
        match dropGaps? s.length s with
        | some (']' :: s) => some (.seq (v :: out).reverse none, s)
        | some (',' :: s) => array? depth fuel (v :: out) s
        | _ => none
termination_by structural n => n

/-- Reads the keys of an inline table up to its end. -/
def inline? (depth : Nat) : Nat → Entries → List Char → Option (Node × List Char)
  | 0, _, _ => none
  | fuel + 1, es, s =>
    match key? maxDepth (s.dropWhile isGap) with
    | some (path, '=' :: s) =>
      match value? depth fuel (s.dropWhile isGap) with
      | none => none
      | some (v, s) =>
        match setKey path v .header es with
        | none => none
        | some es =>
          match s.dropWhile isGap with
          | '\x7d' :: s => some (.map (entryNodes es) none, s)
          | ',' :: s => inline? depth fuel es s
          | _ => none
    | _ => none
termination_by structural n => n

end

/-- The rest after the end of a line, where blanks and a comment may stand before it. -/
def endOfLine? (s : List Char) : Option (List Char) := do
  let s ← dropComment? (s.dropWhile isGap)
  match s with
  | [] => some []
  | s => dropNewline? s

/-- The path of the table that the lines belong to now. -/
abbrev Current := List String

/-- Reads one line: a header, a key with its value, or nothing. -/
def readLine? (root : Entries) (current : Current) (s : List Char) :
    Option (Entries × Current × List Char) :=
  match s.dropWhile isGap with
  | [] => some (root, current, [])
  | '#' :: s => (endOfLine? ('#' :: s)).map fun s => (root, current, s)
  | '[' :: '[' :: s => do
    let (path, s) ← key? maxDepth (s.dropWhile isGap)
    match s with
    | ']' :: ']' :: s => do
      let root ← addTable path root
      let s ← endOfLine? s
      some (root, path, s)
    | _ => none
  | '[' :: s => do
    let (path, s) ← key? maxDepth (s.dropWhile isGap)
    match s with
    | ']' :: s => do
      let root ← openTable path root
      let s ← endOfLine? s
      some (root, path, s)
    | _ => none
  | s =>
    match dropNewline? s with
    | some s => some (root, current, s)
    | none => do
      let (path, s) ← key? maxDepth s
      match s with
      | '=' :: s => do
        let s := s.dropWhile isGap
        let (v, s) ← value? 0 (2 * s.length + 2) s
        let root ← changeAt false (fun _ es => setKey path v .header es) current .header root
        let s ← endOfLine? s
        some (root, current, s)
      | _ => none

/-- Reads all lines. -/
def readLines? : Nat → Entries → Current → List Char → Option Entries
  | 0, root, _, _ => some root
  | n + 1, root, current, s =>
    match s with
    | [] => some root
    | s => do
      let (root, current, s) ← readLine? root current s
      readLines? n root current s

/-- The node of a text in TOML; none when the text is malformed. -/
def read? (text : String) : Option Node :=
  let cs := match text.toList with
    | '\uFEFF' :: cs => cs
    | cs => cs
  (readLines? (cs.length + 1) [] [] cs).map fun es => .map (entryNodes es) none

end ContextCompiler.Toml
