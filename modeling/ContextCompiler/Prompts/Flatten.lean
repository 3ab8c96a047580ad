import ContextCompiler.Config.Prompt
import ContextCompiler.Config.Variables
import ContextCompiler.Failure

/-!
Resolving the inheritance among prompts.

A prompt begins with the messages of what it extends, in order, with the arguments filled in;
its own messages follow. Of several declarations of one id the last one counts, at its place.
A prompt whose inheritance does not work out is dropped with a warning.
-/

namespace ContextCompiler

/-- Why the inheritance of a prompt does not work out. -/
inductive ExtendError where
  | missing (id : String)
  | cycle (id : String)
  | unnamed (owner : String) (index : Nat)
  | emptyTemplate (id : String)
  deriving DecidableEq, Repr

/-- Why a prompt cannot be given out. -/
inductive PromptError where
  | extends (e : ExtendError)
  | noId
  | noMessages
  | badRole (index : Nat) (role : String)
  | noContent (index : Nat)
  deriving DecidableEq, Repr

namespace ExtendError

/-- The wording of a broken inheritance. -/
def message : ExtendError → String
  | missing id => "extends unknown prompt '" ++ id ++ "'"
  | cycle id => "extend cycle through '" ++ id ++ "'"
  | unnamed owner index =>
    "'" ++ owner ++ "' has an extend entry #" ++ toString index ++ " without an id"
  | emptyTemplate id => "template '" ++ id ++ "' has no messages"

end ExtendError

namespace PromptError

/-- The wording of a reason to drop a prompt. -/
def message : PromptError → String
  | .extends e => e.message
  | noId => "missing id"
  | noMessages => "no messages"
  | badRole index role =>
    "message #" ++ toString index ++ " has invalid role '" ++ role
      ++ "' (expected user or assistant)"
  | noContent index => "message #" ++ toString index ++ " has empty content"

end PromptError

namespace Prompt

/-- The last declaration of an id. -/
def lastOf? (prompts : List Prompt) (id : String) : Option Prompt :=
  prompts.reverse.find? (·.id == id)

/-- The list without the declarations that a later one of the same id replaces. -/
def lastDeclarations : List Prompt → List Prompt
  | [] => []
  | p :: rest =>
    if rest.any (·.id == p.id) then lastDeclarations rest else p :: lastDeclarations rest

/-- A message with arguments filled in. -/
def fillMessage (arguments : Scope) (m : Message) : Message :=
  ⟨m.role, arguments.substitute m.content⟩

/-- The ids other than `id`. -/
def without (id : String) (ids : List String) : List String := ids.filter (· != id)

theorem length_without_lt {id : String} {ids : List String} (h : id ∈ ids) :
    (without id ids).length < ids.length :=
  List.length_filter_lt_length_iff_exists.2 ⟨id, h, by simp⟩

/-- The inherited messages of a prompt, then its own. `free` holds the ids that are not on
the way from the prompt that is asked for; an id that is not free closes a cycle. -/
def resolvedMessages (prompts : List Prompt) (free : List String) (p : Prompt) :
    Except ExtendError (List Message) :=
  if _h : p.id ∈ free then do
    let inherited ← p.extend.zipIdx.mapM fun (e, index) => do
      if Text.isBlankText e.id then throw (.unnamed p.id index)
      match lastOf? prompts e.id with
      | none => throw (.missing e.id)
      | some parent =>
        let messages ← resolvedMessages prompts (without p.id free) parent
        if parent.kind = .template && messages.isEmpty then throw (.emptyTemplate parent.id)
        pure (messages.map (fillMessage e.arguments))
    pure (inherited.flatten ++ p.messages)
  else throw (.cycle p.id)
termination_by free.length
decreasing_by
  exact length_without_lt (by assumption)

/-- The first thing that is wrong with a list of messages. -/
def checkMessages : List (Message × Nat) → Except PromptError Unit
  | [] => pure ()
  | (m, index) :: rest => do
    if m.role != "user" && m.role != "assistant" then throw (.badRole index m.role)
    if Text.isBlankText m.content then throw (.noContent index)
    checkMessages rest

/-- The messages of a prompt that can be given out. -/
def flatMessages (prompts : List Prompt) (p : Prompt) : Except PromptError (List Message) := do
  let messages ← (resolvedMessages prompts (prompts.map (·.id)) p).mapError .extends
  if Text.isBlankText p.id then throw .noId
  if messages.isEmpty then throw .noMessages
  checkMessages messages.zipIdx
  pure messages

/-- The place that a warning about a prompt concerns. -/
def warningScope (p : Prompt) : String :=
  if p.id = "" then "prompt:<unnamed>" else "prompt:" ++ p.id

/-- A prompt on its own, or the warning that it is dropped. -/
def flattenOne (prompts : List Prompt) (p : Prompt) : Except Warning Prompt :=
  match flatMessages prompts p with
  | .ok messages => .ok { p with messages := messages, extend := [] }
  | .error e => .error ⟨p.warningScope, "prompt dropped: " ++ e.message⟩

/-- The prompts that can be given out, each on its own, and warnings about the others.
Templates are not given out. -/
def flatten (prompts : List Prompt) : List Prompt × List Warning :=
  let results := ((lastDeclarations prompts).filter (·.kind = .prompt)).map (flattenOne prompts)
  (results.filterMap fun | .ok p => some p | .error _ => none,
   results.filterMap fun | .error w => some w | .ok _ => none)

end Prompt

end ContextCompiler
