import ContextCompiler.Text.Search

/-!
Reading command lines by the rules of commands.

A command has options, arguments, or commands below it. Words are gone through from left to right,
and what is wrong with a word is told before anything that comes later. The value of an option is
looked at when the next option or argument has been seen, or the words are over; a value that is
written together with its option is looked at right away. Two dashes alone end the options.
-/

namespace ContextCompiler.Cli

/-- Why a command line cannot be used, or is not meant to be. -/
inductive UsageError where
  /-- The user asks for help. -/
  | help
  /-- The user asks for the version. -/
  | version
  /-- No word was given where a command is needed. -/
  | nothingGiven
  /-- No command was given, but options were. -/
  | missingCommand
  | unknownCommand (word : String)
  | unknownArgument (word : String)
  | missingArgument (name : String)
  | missingValue (option : String)
  /-- A value was given to an option that takes none. -/
  | unneededValue (option value : String)
  /-- The value is not one of those that an option knows. -/
  | unknownValue (option value : String)
  /-- The value does not have the form that an option needs. -/
  | wrongValue (option value reason : String)
  /-- Two options cannot go together, or one was given twice. -/
  | conflict (option other : String)
  deriving DecidableEq, Repr

/-- What is wrong with a value. -/
inductive ValueFault where
  | missing
  | unknown
  | wrong (reason : String)
  deriving DecidableEq, Repr

/-- What an option does. -/
inductive OptionKind where
  | help
  | version
  /-- May be given once. -/
  | flag
  /-- May be given any number of times. -/
  | counter
  /-- Takes a value and may be given once. -/
  | value
  /-- Takes a value each time that it is given. -/
  | values
  deriving DecidableEq, Repr

/-- An option. -/
structure OptionRule where
  name : String
  short : Option Char
  kind : OptionKind
  /-- What the value is called in texts. -/
  valueName : String
  check : String → Except ValueFault Unit

/-- A command, by the words that lead to it. -/
structure CommandRule where
  path : List String
  /-- Other words for the last one. -/
  aliases : List String
  options : List OptionRule
  /-- Words that have to be given, in order. -/
  arguments : List String
  /-- Pairs of options that cannot go together. -/
  conflicts : List (String × String)

/-- What was given to one command: the values of options and arguments, in order. -/
abbrev Given := List (String × String)

/-- How far the words of one command are read. -/
structure Reading where
  given : Given
  /-- The last option, if it takes a value that was not looked at so far, and the value if there is
  one. -/
  pending : Option (OptionRule × Option String)
  /-- Whether no option may follow. -/
  ended : Bool
  /-- How many arguments were given. -/
  arguments : Nat

namespace UsageError

/-- What is told of a value of the wrong form. -/
def message? : UsageError → Option String
  | wrongValue option value reason =>
    some ("error: invalid value '" ++ value ++ "' for '" ++ option ++ "': " ++ reason)
  | _ => none

end UsageError

namespace OptionRule

/-- An option as it is shown in texts. -/
def shown (o : OptionRule) : String := "--" ++ o.name ++ " <" ++ o.valueName ++ ">"

/-- Whether an option takes a value. -/
def takesValue (o : OptionRule) : Bool := o.kind == .value || o.kind == .values

/-- Whether an option may be given once only. -/
def isSingle (o : OptionRule) : Bool := o.kind == .value || o.kind == .flag

/-- The failure for a value. -/
def fault (o : OptionRule) (value : String) : ValueFault → UsageError
  | .missing => .missingValue o.shown
  | .unknown => .unknownValue o.shown value
  | .wrong reason => .wrongValue o.shown value reason

end OptionRule

namespace Reading

/-- Nothing is read. -/
def start : Reading := ⟨[], none, false, 0⟩

/-- Whether an option was given. -/
def has (r : Reading) (name : String) : Bool := r.given.any (·.1 == name)

/-- Whether the last option waits for its value. -/
def isWaiting (r : Reading) : Bool :=
  match r.pending with
  | some (_, none) => true
  | _ => false

/-- Takes an option, with its value if it needs one. -/
def take (r : Reading) (o : OptionRule) (value : Option String) : Except UsageError Reading :=
  if o.takesValue && value.isNone then .error (.missingValue o.shown)
  else if o.kind == .help then .error .help
  else if o.kind == .version then .error .version
  else if o.isSingle && r.has o.name then .error (.conflict o.name o.name)
  else
    let text := value.getD ""
    match if o.takesValue then o.check text else .ok () with
    | .error f => .error (o.fault text f)
    | .ok () => .ok { r with given := r.given ++ [(o.name, text)] }

/-- Looks at the value of the last option. -/
def settle (r : Reading) : Except UsageError Reading :=
  match r.pending with
  | none => .ok r
  | some (o, value) => ({ r with pending := none }).take o value

/-- Takes an option; `attached` is a value that is written together with it. -/
def option (r : Reading) (o : OptionRule) (attached : Option String) :
    Except UsageError Reading := do
  let r ← r.settle
  if o.takesValue then
    match attached with
    | some value => r.take o (some value)
    | none => pure { r with pending := some (o, none) }
  else r.take o none

/-- Takes an option by its long name. -/
def long (r : Reading) (options : List OptionRule) (text : String) : Except UsageError Reading :=
  let (name, attached) : String × Option String :=
    match Text.splitFirst ['='] text.toList with
    | some (name, value) => (String.ofList name, some (String.ofList value))
    | none => (text, none)
  match options.find? (·.name == name), attached with
  | none, _ => .error (.unknownArgument ("--" ++ name))
  | some o, some value =>
    if o.takesValue then r.option o attached else .error (.unneededValue o.name value)
  | some o, none => r.option o none

/-- Takes options by their short names, written together; what follows the name of one that takes
a value is its value. -/
def short (options : List OptionRule) : Reading → List Char → Except UsageError Reading
  | r, [] => .ok r
  | r, c :: rest =>
    match options.find? (·.short == some c) with
    | none => .error (.unknownArgument (String.ofList ['-', c]))
    | some o =>
      if o.takesValue then
        match rest with
        | [] => r.option o none
        | '=' :: value => r.option o (some (String.ofList value))
        | value => r.option o (some (String.ofList value))
      else do short options (← r.option o none) rest

/-- Takes a word that is neither an option nor the value of one. -/
def argument (r : Reading) (rule : CommandRule) (hasCommands isCommand : Bool) (word : String) :
    Except UsageError Reading :=
  match rule.arguments[r.arguments]? with
  | some name => do
    let r ← r.settle
    pure { r with given := r.given ++ [(name, word)], arguments := r.arguments + 1 }
  | none =>
    .error (if hasCommands && !(r.ended && isCommand) then .unknownCommand word
      else .unknownArgument word)

/-- Takes a word where it may be an option. -/
def word (r : Reading) (rule : CommandRule) (hasCommands isCommand : Bool) (word : String) :
    Except UsageError Reading :=
  let plain : Except UsageError Reading :=
    match r.pending with
    | some (o, none) => .ok { r with pending := some (o, some word) }
    | _ => r.argument rule hasCommands isCommand word
  if r.ended then r.argument rule hasCommands isCommand word
  else
    match word.toList with
    | ['-', '-'] => .ok { r with ended := true }
    | '-' :: '-' :: rest => r.long rule.options (String.ofList rest)
    | ['-'] => plain
    | '-' :: rest => short rule.options r rest
    | _ => plain

/-- Ends the words of a command, where a command below it was given or not. -/
def finish (r : Reading) (rule : CommandRule) (hasCommands isBelow : Bool) :
    Except UsageError Given := do
  let r ← r.settle
  if hasCommands && !isBelow then
    throw (if r.given.isEmpty then .nothingGiven else .missingCommand)
  match rule.conflicts.find? fun (a, b) => r.has a && r.has b with
  | some (a, b) => throw (.conflict a b)
  | none => pure ()
  match rule.arguments[r.arguments]? with
  | some name => throw (.missingArgument name)
  | none => pure r.given

end Reading

/-- The commands of a program. -/
structure Grammar where
  rules : List CommandRule

namespace Grammar

/-- The rule of a command. -/
def rule (g : Grammar) (path : List String) : CommandRule :=
  (g.rules.find? (·.path == path)).getD ⟨path, [], [], [], []⟩

/-- The commands right below a command. -/
def below (g : Grammar) (path : List String) : List CommandRule :=
  g.rules.filter fun r => r.path.length == path.length + 1 && path.isPrefixOf r.path

/-- The command right below another one that a word stands for. -/
def command? (g : Grammar) (path : List String) (word : String) : Option (List String) :=
  ((g.below path).find? fun r => r.path.getLast? == some word || r.aliases.contains word).map
    CommandRule.path

/-- What asking for help on a command leads to. -/
def helpOn (g : Grammar) : List String → List String → UsageError
  | _, [] => .help
  | path, word :: rest =>
    match g.command? path word with
    | some path => helpOn g path rest
    | none =>
      if word == "help" && !(g.below path).isEmpty then
        match rest with
        | [] => .help
        | next :: _ => .unknownCommand next
      else .unknownCommand word

/-- Reads the words that follow a command: what was given to it and to the commands below it. -/
def readBelow (g : Grammar) : List String → Reading → List String →
    Except UsageError (List (List String × Given))
  | path, r, [] => do
    pure [(path, ← r.finish (g.rule path) (!(g.below path).isEmpty) false)]
  | path, r, word :: rest => do
    let hasCommands := !(g.below path).isEmpty
    let command := g.command? path word
    let isHelp := hasCommands && word == "help"
    if r.ended || r.isWaiting then
      readBelow g path (← r.word (g.rule path) hasCommands (command.isSome || isHelp) word) rest
    else if isHelp then throw (g.helpOn path rest)
    else
      match command with
      | some deeper =>
        let more ← readBelow g deeper .start rest
        pure ((path, ← r.finish (g.rule path) hasCommands true) :: more)
      | none => readBelow g path (← r.word (g.rule path) hasCommands false word) rest

/-- Reads a command line: the command, and what was given to it. -/
def read (g : Grammar) (words : List String) : Except UsageError (List String × Given) := do
  let all ← g.readBelow [] .start words
  pure (all.getLast?.getD ([], []))

end Grammar

end ContextCompiler.Cli
