import ContextCompiler.Storage.Basic

/-!
Walks through directories.

A walk lists the files below a directory, names in order, what is in a directory right after its
name. Links are followed, except into a directory that the walk is inside of.
-/

namespace ContextCompiler

/-- A file met on a walk: the names from the start on, its place, and its bytes. -/
structure WalkedFile where
  names : List String
  place : Place
  bytes : List UInt8

namespace Storage

/-- The files below a directory, with those of directories that `enters` refuses left out.
`depth` is the number of levels that may still be entered, and `fuel` bounds the levels. -/
def walkDirectory (s : Storage) (enters : List String → Bool) :
    Nat → Option Nat → List Place → List String → Place → List WalkedFile
  | 0, _, _, _, _ => []
  | _ + 1, some 0, _, _, _ => []
  | fuel + 1, depth, inside, names, p =>
    (s.names p).flatMap fun name =>
      let names := names ++ [name]
      let q := p ++ [name]
      let enter (q : Place) : List WalkedFile :=
        if enters names then
          walkDirectory s enters fuel (depth.map (· - 1)) (q :: inside) names q
        else []
      match s.get? q with
      | none => []
      | some (.file bytes) => [⟨names, q, bytes⟩]
      | some .directory => enter q
      | some (.link target) =>
        let start : Place := if Path.isAbsolute target then [] else p
        match s.follow true (linkLimit - 1) (Text.split '/' target) start with
        | .error _ => []
        | .ok q =>
          match s.get? q with
          | some (.file bytes) => [⟨names, q, bytes⟩]
          | some .directory => if inside.contains q then [] else enter q
          | _ => []

/-- The files from a path on, not more than `depth` levels down. A file is met itself, without
names. -/
def walk (s : Storage) (enters : List String → Bool) (depth : Option Nat) (path : String) :
    List WalkedFile :=
  match s.locate path with
  | .error _ => []
  | .ok p =>
    match s.get? p with
    | some (.file bytes) => [⟨[], p, bytes⟩]
    | some .directory => s.walkDirectory enters (2 * s.entries.length + 2) depth [p] [] p
    | _ => []

end Storage

end ContextCompiler
