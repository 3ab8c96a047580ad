import ContextCompiler.Storage.Path
import ContextCompiler.Text.Utf8
import ContextCompiler.Failure

/-!
A tree of directories, files and links.

The tree is a table from places to what is there. A path is followed name by name from the root
or the working directory; a link puts its own path in front of the names that are left.
-/

namespace ContextCompiler

/-- A place in the tree: the names on the way from the root. -/
abbrev Place := List String

/-- What is at a place. -/
inductive Entry where
  | directory
  | file (bytes : List UInt8)
  | link (target : String)
  deriving DecidableEq, Repr

/-- A tree of files, and the directory that relative paths start from. -/
structure Storage where
  entries : List (Place × Entry)
  workDir : Place
  deriving Repr

namespace Place

/-- The path of a place. -/
def path (p : Place) : String := "/" ++ Text.join "/" p

/-- Whether names come before others, or are the same; the first names that differ decide. -/
def comesFirst : List String → List String → Bool
  | [], _ => true
  | _ :: _, [] => false
  | x :: xs, y :: ys => if x == y then comesFirst xs ys else x < y

end Place

namespace Storage

/-- What is at a place. The root is a directory. -/
def get? (s : Storage) (p : Place) : Option Entry :=
  if p.isEmpty then some .directory else s.entries.lookup p

/-- Puts an entry at a place, instead of what is there. -/
def put (s : Storage) (p : Place) (e : Entry) : Storage :=
  { s with entries :=
      if (s.entries.lookup p).isSome then
        s.entries.map fun (q, old) => if q == p then (q, e) else (q, old)
      else s.entries ++ [(p, e)] }

/-- Takes the entry of a place away. -/
def remove (s : Storage) (p : Place) : Storage :=
  { s with entries := s.entries.filter fun (q, _) => q != p }

/-- The names directly below a place, in order. -/
def names (s : Storage) (p : Place) : List String :=
  (s.entries.filterMap fun (q, _) =>
    if q.length == p.length + 1 && q.dropLast == p then q.getLast? else none).mergeSort

/-- Names are at most this many bytes long. -/
def nameLimit : Nat := 255

/-- A path leads over at most this many links. -/
def linkLimit : Nat := 40

/-- Follows the pieces of a path from a place. The last piece is followed where it is a link, if
`last` holds; `links` is the number of links that may still be followed. -/
def follow (s : Storage) (last : Bool) (links : Nat) (pieces : List String) (p : Place) :
    Except StorageFault Place :=
  match pieces with
  | [] => .ok p
  | piece :: rest =>
    if s.get? p != some .directory then .error .notDirectory
    else if piece == "" || piece == "." then follow s last links rest p
    else if piece == ".." then follow s last links rest p.dropLast
    else if piece.utf8ByteSize > nameLimit then .error .nameTooLong
    else
      let q := p ++ [piece]
      match s.get? q with
      | none => .error .missing
      | some (.link target) =>
        if rest.isEmpty && !last then .ok q
        else
          match links with
          | 0 => .error .linkLoop
          | n + 1 =>
            follow s last n (Text.split '/' target ++ rest)
              (if Path.isAbsolute target then [] else p)
      | some _ => follow s last links rest q
termination_by (links, pieces.length)

/-- Where a path starts and its pieces. -/
def start (s : Storage) (path : String) : Place × List String :=
  (if Path.isAbsolute path then [] else s.workDir, Text.split '/' path)

/-- The place that a path leads to. -/
def locate (s : Storage) (path : String) : Except StorageFault Place :=
  if path == "" then .error .missing
  else
    let (p, pieces) := s.start path
    s.follow true linkLimit pieces p

/-- The place that a path leads to, where a link at its end is not followed. -/
def locateLink (s : Storage) (path : String) : Except StorageFault Place :=
  if path == "" then .error .missing
  else
    let (p, pieces) := s.start path
    s.follow false linkLimit pieces p

/-- What a path leads to. -/
def entryAt (s : Storage) (path : String) : Except StorageFault Entry := do
  match s.get? (← s.locate path) with
  | some e => pure e
  | none => throw .missing

/-- Whether a path leads to something. -/
def isThere (s : Storage) (path : String) : Bool := (s.entryAt path).toOption.isSome

/-- Whether a path leads to a directory. -/
def isDirectory (s : Storage) (path : String) : Bool :=
  match s.entryAt path with
  | .ok .directory => true
  | _ => false

/-- Whether a path leads to a file. -/
def isFile (s : Storage) (path : String) : Bool :=
  match s.entryAt path with
  | .ok (.file _) => true
  | _ => false

/-- The path of the place that a path leads to. -/
def canonical (s : Storage) (path : String) : Except StorageFault String :=
  Place.path <$> s.locate path

/-- The bytes of a file. -/
def readBytes (s : Storage) (path : String) : Except StorageFault (List UInt8) := do
  match ← s.entryAt path with
  | .file bytes => pure bytes
  | _ => throw .isDirectory

/-- The text of a file. -/
def readText (s : Storage) (path : String) : Except StorageFault String := do
  match Text.ofUtf8? (← s.readBytes path) with
  | some text => pure (String.ofList text)
  | none => throw .notText

/-- The last name of a path that may not be there yet, and the place of its directory. Links at
the end are followed `links` times at most. -/
def locateNew (s : Storage) (links : Nat) (pieces : List String) (p : Place) :
    Except StorageFault Place :=
  match pieces.reverse with
  | [] => .error .missing
  | name :: front => do
    let dir ← s.follow true linkLimit front.reverse p
    if s.get? dir != some .directory then throw .notDirectory
    if name == "" || name == "." then throw .isDirectory
    if name == ".." then throw .isDirectory
    if name.utf8ByteSize > nameLimit then throw .nameTooLong
    match s.get? (dir ++ [name]) with
    | some (.link target) =>
      match links with
      | 0 => throw .linkLoop
      | n + 1 => locateNew s n (Text.split '/' target) (if Path.isAbsolute target then [] else dir)
    | _ => pure (dir ++ [name])
termination_by links

/-- Writes a file. What was in it is lost. -/
def write (s : Storage) (path : String) (bytes : List UInt8) : Except StorageFault Storage := do
  if path == "" then throw .missing
  let (p, pieces) := s.start path
  let place ← s.locateNew linkLimit pieces p
  match s.get? place with
  | some .directory => throw .isDirectory
  | _ => pure (s.put place (.file bytes))

/-- Pieces of a path without those at its end that lead nowhere. -/
def withoutIdleEnd (pieces : List String) : List String :=
  (pieces.reverse.dropWhile fun piece => piece == "").reverse

/-- Makes one directory. -/
def makeDirectory (s : Storage) (path : String) : Except StorageFault Storage := do
  if path == "" then throw .missing
  let (p, pieces) := s.start path
  match (withoutIdleEnd pieces).reverse with
  | [] => throw .exists
  | name :: front =>
    let dir ← s.follow true linkLimit front.reverse p
    if s.get? dir != some .directory then throw .notDirectory
    if name == "." || name == ".." then throw .exists
    if name.utf8ByteSize > nameLimit then throw .nameTooLong
    match s.get? (dir ++ [name]) with
    | some _ => throw .exists
    | none => pure (s.put (dir ++ [name]) .directory)

/-- Makes a directory and those above it that are missing. What was made stays when a later one
cannot be made. `fuel` bounds the levels. -/
def makeDirectories (s : Storage) : Nat → String → Storage × Except StorageFault Unit
  | 0, _ => (s, .error .missing)
  | fuel + 1, path =>
    if path == "" then (s, .ok ())
    else
      let settle (s : Storage) (fault : StorageFault) : Storage × Except StorageFault Unit :=
        (s, if s.isDirectory path then .ok () else .error fault)
      match s.makeDirectory path with
      | .ok s => (s, .ok ())
      | .error .missing =>
        match Path.parent? path with
        | none => (s, .error .missing)
        | some parent =>
          match makeDirectories s fuel parent with
          | (s, .error fault) => (s, .error fault)
          | (s, .ok ()) =>
            match s.makeDirectory path with
            | .ok s => (s, .ok ())
            | .error fault => settle s fault
      | .error fault => settle s fault

/-- Makes a directory and those above it that are missing. -/
def makeAllDirectories (s : Storage) (path : String) : Storage × Except StorageFault Unit :=
  s.makeDirectories ((Path.parts path).length + 1) path

/-- The place of the directory in which a path ends, the name there, and whether a slash follows
the name. -/
def locateLast (s : Storage) (path : String) : Except StorageFault (Place × String × Bool) := do
  let (p, pieces) := s.start path
  let trimmed := withoutIdleEnd pieces
  match trimmed.reverse with
  | [] => throw (if path == "" then .missing else .busy)
  | name :: front =>
    let dir ← s.follow true linkLimit front.reverse p
    if s.get? dir != some .directory then throw .notDirectory
    pure (dir, name, trimmed.length < pieces.length)

/-- Moves a file, instead of the file at the new path if there is one. -/
def rename (s : Storage) (old new : String) : Except StorageFault Storage := do
  let (oldDir, oldName, oldSlash) ← s.locateLast old
  let (newDir, newName, newSlash) ← s.locateLast new
  if [oldName, newName].any fun name => name == "." || name == ".." then throw .busy
  if oldName.utf8ByteSize > nameLimit || newName.utf8ByteSize > nameLimit then throw .nameTooLong
  let source := oldDir ++ [oldName]
  let target := newDir ++ [newName]
  match s.get? source with
  | none => throw .missing
  | some .directory => throw .isDirectory
  | some e =>
    if oldSlash || newSlash then throw .notDirectory
    match s.get? target with
    | some .directory => throw .isDirectory
    | _ => if target == source then pure s else pure ((s.remove source).put target e)

end Storage

end ContextCompiler
