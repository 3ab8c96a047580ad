import ContextCompiler.Imports.Place
import ContextCompiler.Registry.Basic

/-!
Resolving the imports of a configuration.

Imports are gone through depth first, in the order of the directives and of their targets. A target
that is already on the way from the root is skipped with a warning, and so is one that cannot be
loaded. What a target amounts to is worked out once and kept for all who import it. The
declarations of the importing configuration come last, and win.

The work is done for whatever graph there is, so it has no result where it never ends. In a world
of finitely many files and answers it always does.
-/

namespace ContextCompiler

/-- A graph of configurations. -/
structure ImportGraph where
  /-- Where a directive of a configuration leads. -/
  targets : ConfigPlace → ImportDirective → Except Warning (List ConfigPlace)
  /-- What the configuration at a place declares. -/
  load : ConfigPlace → ImportDirective → Fetching Declarations
  /-- The directory of the documents of a configuration. -/
  baseDir : ConfigPlace → String

/-- A configuration that was loaded: its place and what it declares. -/
structure ImportNode where
  place : ConfigPlace
  raw : Declarations

namespace ImportNode

/-- What tells a configuration from others. -/
def id (n : ImportNode) : String := n.place.id

end ImportNode

/-- One import of a configuration: a directive with one of its targets, or the warning that a
directive leads nowhere. -/
abbrev ImportArc : Type := Except Warning (ImportDirective × ConfigPlace)

/-- How far the work has come: what the configurations resolved so far amount to, the warnings, the
ids of the configurations that were loaded, and the requests, each in order. -/
structure ResolverState where
  resolved : SortedMap Registry
  warnings : List Warning
  loaded : List String
  traffic : Traffic

namespace ResolverState

/-- Nothing is resolved. -/
def start : ResolverState := ⟨.empty, [], [], .none⟩

/-- Adds a warning. -/
def warn (s : ResolverState) (w : Warning) : ResolverState :=
  { s with warnings := s.warnings ++ [w] }

/-- Keeps what a configuration amounts to. -/
def keep (s : ResolverState) (id : String) (r : Registry) : ResolverState :=
  { s with resolved := s.resolved.insert id r }

end ResolverState

namespace ImportGraph

/-- The imports of a configuration in the order in which they are gone through. -/
def arcs (g : ImportGraph) (n : ImportNode) : List ImportArc :=
  n.raw.imports.flatMap fun directive =>
    match g.targets n.place directive with
    | .error w => [.error w]
    | .ok targets => targets.map fun target => .ok (directive, target)

/-- What a configuration declares itself. -/
def own (g : ImportGraph) (n : ImportNode) : Registry :=
  .ofDeclarations n.raw n.id (g.baseDir n.place)

/-- The warning that an import leads back to a configuration that is being resolved. -/
def cycleWarning (importer target : String) : Warning :=
  ImportWorld.warning target ("import cycle detected from " ++ importer ++ ", skipping")

/-- The wording of what kept a configuration from being loaded. -/
def haltMessage : Halt → String
  | .failure e => e.message
  | .silence => "no answer"

/-- The warning that a target could not be loaded. -/
def skipWarning (target : String) (e : Halt) : Warning :=
  ImportWorld.warning target ("import skipped: " ++ haltMessage e)

/-- Takes what a target amounts to into a registry. -/
def foldTarget (acc sub : Registry) (target : ConfigPlace) (directive : ImportDirective) :
    Registry :=
  { acc with imports := addNew id acc.imports target.id }.absorb (sub.select directive)

/-- Asks for the configuration at a place. -/
def ask (g : ImportGraph) (target : ConfigPlace) (directive : ImportDirective)
    (s : ResolverState) : Except Halt Declarations × ResolverState :=
  match (g.load target directive).run s.traffic with
  | (.ok raw, traffic) =>
    (.ok raw, { s with traffic := traffic, loaded := s.loaded ++ [target.id] })
  | (.error e, traffic) => (.error e, { s with traffic := traffic })

/-- Takes what imports of `n` amount to into `acc`, one after the other. `branch` holds the ids of
the configurations that are being resolved, `n` among them. -/
def resolveArcs (g : ImportGraph) (n : ImportNode) (branch : List String) (arcs : List ImportArc)
    (acc : Registry) (s : ResolverState) : Option (Registry × ResolverState) :=
  match arcs with
  | [] => some (acc, s)
  | .error w :: rest => g |>.resolveArcs n branch rest acc (s.warn w)
  | .ok (directive, target) :: rest =>
    if target.id ∈ branch then
      g |>.resolveArcs n branch rest acc (s.warn (cycleWarning n.id target.id))
    else
      match s.resolved.get? target.id with
      | some sub => g |>.resolveArcs n branch rest (foldTarget acc sub target directive) s
      | none =>
        match g.ask target directive s with
        | (.error e, s) => g |>.resolveArcs n branch rest acc (s.warn (skipWarning target.id e))
        | (.ok raw, s) => do
          let child : ImportNode := ⟨target, raw⟩
          let (imported, s) ← g |>.resolveArcs child (child.id :: branch) (g.arcs child) .empty s
          let sub := imported.absorb (g.own child)
          g |>.resolveArcs n branch rest (foldTarget acc sub target directive) (s.keep child.id sub)
partial_fixpoint

/-- What a root configuration amounts to, and the record of the work. -/
def resolveRoot (g : ImportGraph) (root : ImportNode) : Option (Registry × ResolverState) := do
  let (imported, s) ← g.resolveArcs root [root.id] (g.arcs root) .empty .start
  pure (imported.absorb (g.own root), s)

end ImportGraph

namespace ImportWorld

/-- The graph of the configurations of a world. -/
def graph (w : ImportWorld) : ImportGraph where
  targets := w.targets
  load := w.load
  baseDir := ConfigPlace.baseDir w.workDir

/-- What a root amounts to. The work always ends, so that it is never left at what the root
declares itself. -/
def resolve (w : ImportWorld) (root : ImportNode) : Registry × ResolverState :=
  (w.graph.resolveRoot root).getD (w.graph.own root, .start)

/-- The configuration of a root file. -/
def rootFile (w : ImportWorld) (path : String) : Except Failure ImportNode :=
  match w.storage.canonical path with
  | .error fault => .error (.storage path fault)
  | .ok path => do pure ⟨.file path, ← readFile w.storage path⟩

/-- What a root file amounts to. -/
def resolveFile (w : ImportWorld) (path : String) : Except Failure (Registry × ResolverState) := do
  pure (w.resolve (← w.rootFile path))

/-- What declarations amount to that were handed over for a directory. -/
def resolveInline (w : ImportWorld) (raw : Declarations) (dir : String) :
    Registry × ResolverState :=
  w.resolve ⟨.inline dir, raw⟩

end ImportWorld

end ContextCompiler
