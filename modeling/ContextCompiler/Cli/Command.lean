import ContextCompiler.Cli.Usage
import ContextCompiler.Config.Variables

/-!
The commands of the program, and what it says to a command line that it cannot use, or to one that
asks for help.
-/

namespace ContextCompiler.Cli

/-- Where the root configuration of a command comes from. -/
structure ConfigChoice where
  configFile : Option String
  inlineConfig : Option String
  workDir : Option String
  envFile : Option String
  deriving DecidableEq, Repr

/-- A command of the program. -/
inductive Command where
  /-- Compiles all documents. -/
  | generate (config : ConfigChoice) (json : Bool) (outputDir : Option String)
      (concurrency : Option Nat)
  /-- Lists the prompts. -/
  | prompts (config : ConfigChoice) (json : Bool)
  /-- Shows a prompt, filled with arguments. -/
  | prompt (id : String) (arguments : Scope) (config : ConfigChoice) (json : Bool)
  /-- Lists the tools. -/
  | tools (config : ConfigChoice) (json : Bool)
  /-- Writes the usual settings. -/
  | initSettings
  /-- Shows the settings. -/
  | showSettings

/-- The largest number that is taken for a count. -/
def largestCount : Nat := Nat.pow 2 64 - 1

/-- The number of decimal digits; `n` is the number so far. -/
def readDigits (n : Nat) : List Char → Except String Nat
  | [] => .ok n
  | c :: s =>
    if !c.isDigit then .error "invalid digit found in string"
    else
      let m := n * 10 + (c.toNat - '0'.toNat)
      if m ≤ largestCount then readDigits m s
      else .error "number too large to fit in target type"

/-- The number of a text, which may start with a plus sign. -/
def readCount (text : String) : Except String Nat :=
  match text.toList with
  | [] => .error "cannot parse integer from empty string"
  | ['+'] => .error "invalid digit found in string"
  | '+' :: s => readDigits 0 s
  | s => readDigits 0 s

/-- The key and the value of an argument, between them an equals sign. -/
def readPair (text : String) : Except String (String × String) :=
  match Text.splitFirst ['='] text.toList with
  | none => .error ("expected key=value, got '" ++ text ++ "'")
  | some (key, value) =>
    let key := String.ofList (Text.trimWhile Text.isBlank key)
    if key == "" then .error ("empty key in '" ++ text ++ "'")
    else .ok (key, String.ofList value)

namespace OptionRule

/-- The option that asks for help. -/
def helpOption : OptionRule := ⟨"help", some 'h', .help, "", fun _ => .ok ()⟩

/-- The option that asks for the version. -/
def versionOption : OptionRule := ⟨"version", some 'V', .version, "", fun _ => .ok ()⟩

/-- An option that is given or not. -/
def flag (name : String) : OptionRule := ⟨name, none, .flag, "", fun _ => .ok ()⟩

/-- An option with any text. -/
def text (name valueName : String) : OptionRule := ⟨name, none, .value, valueName, fun _ => .ok ()⟩

/-- An option with a path, which is not empty. -/
def path (name : String) (short : Option Char) (valueName : String) : OptionRule :=
  ⟨name, short, .value, valueName, fun v => if v == "" then .error .missing else .ok ()⟩

/-- The options of every command. -/
def common : List OptionRule :=
  [⟨"log-format", none, .value, "LOG_FORMAT", fun v =>
      if ["text", "json"].contains v then .ok () else .error .unknown⟩,
   ⟨"verbose", some 'v', .counter, "", fun _ => .ok ()⟩,
   helpOption]

/-- The options for the root configuration. -/
def config : List OptionRule :=
  [path "config-file" (some 'c') "CONFIG_FILE", text "inline" "INLINE",
   path "work-dir" (some 'w') "WORK_DIR", path "env" none "ENV_FILE"]

/-- An option whose value has to be readable. -/
def readable {α : Type} (name valueName : String) (kind : OptionKind)
    (read : String → Except String α) : OptionRule :=
  ⟨name, none, kind, valueName, fun v =>
    match read v with
    | .ok _ => .ok ()
    | .error reason => .error (.wrong reason)⟩

end OptionRule

/-- The commands of the program. -/
def grammar : Grammar where
  rules :=
    let configured (path aliases : List String) (options : List OptionRule)
        (arguments : List String) : CommandRule :=
      ⟨path, aliases, OptionRule.config ++ OptionRule.flag "json" :: options ++ OptionRule.common,
        arguments, [("inline", "config-file")]⟩
    let bare (path : List String) : CommandRule := ⟨path, [], OptionRule.common, [], []⟩
    [⟨[], [], OptionRule.versionOption :: OptionRule.common, [], []⟩,
     configured ["generate"] ["build", "compile"]
       [.path "output-dir" (some 'o') "OUTPUT_DIR",
        .readable "concurrency" "CONCURRENCY" .value readCount] [],
     configured ["prompts"] [] [] [],
     configured ["prompt"] [] [.readable "arg" "ARGS" .values readPair] ["id"],
     configured ["tools"] [] [] [],
     bare ["config"], bare ["config", "init"], bare ["config", "show"]]

namespace Command

/-- The command of what was given on a command line. -/
def ofGiven (path : List String) (given : Given) : Except UsageError Command :=
  let value (name : String) : Option String := given.lookup name
  let json := (value "json").isSome
  let config : ConfigChoice :=
    ⟨value "config-file", value "inline", value "work-dir", value "env"⟩
  match path with
  | ["generate"] =>
    .ok (generate config json (value "output-dir")
      ((value "concurrency").bind fun v => (readCount v).toOption))
  | ["prompts"] => .ok (prompts config json)
  | ["prompt"] =>
    let pairs := (given.filter (·.1 == "arg")).filterMap fun (_, v) => (readPair v).toOption
    .ok (prompt ((value "id").getD "") (SortedMap.ofList pairs) config json)
  | ["tools"] => .ok (tools config json)
  | ["config", "init"] => .ok initSettings
  | ["config", "show"] => .ok showSettings
  | _ => .error .missingCommand

/-- Reads the words after the name of the program. -/
def read (words : List String) : Except UsageError Command := do
  let (path, given) ← grammar.read words
  ofGiven path given

end Command

/-! ## Help and errors in words -/

/-- The name and number of the program. -/
def versionText : String := "ctxgen 0.1.0"

/-- The commands, and what each of them does. -/
def helpLines : List String :=
  ["Compile AI context documents from declarative, importable configs.",
   "",
   "Usage: ctxgen [OPTIONS] <COMMAND>",
   "",
   "Commands:",
   "  generate  Resolve the config and write every document [aliases: build, compile]",
   "  prompts   List the prompts left after template flattening",
   "  prompt    Render one prompt with arguments",
   "  tools     List resolved tool declarations",
   "  config    Configuration management"]

namespace UsageError

/-- An error in words. A request for help or for the version is answered with what it asks for. -/
def text (e : UsageError) : String :=
  match e with
  | help | nothingGiven => Text.join "\n" helpLines
  | version => versionText
  | missingCommand => "error: 'ctxgen' requires a subcommand but one was not provided"
  | unknownCommand word => "error: unrecognized subcommand '" ++ word ++ "'"
  | unknownArgument word => "error: unexpected argument '" ++ word ++ "' found"
  | missingArgument name =>
    "error: the following required arguments were not provided:\n  <" ++ name.toUpper ++ ">"
  | missingValue option => "error: a value is required for '" ++ option ++ "' but none was supplied"
  | unneededValue option value =>
    "error: unexpected value '" ++ value ++ "' for '--" ++ option
      ++ "' found; no more were expected"
  | unknownValue option value => "error: invalid value '" ++ value ++ "' for '" ++ option ++ "'"
  | wrongValue _ _ _ => e.message?.getD ""
  | conflict option other =>
    if option == other then
      "error: the argument '--" ++ option ++ "' cannot be used multiple times"
    else "error: the argument '--" ++ option ++ "' cannot be used with '--" ++ other ++ "'"

/-- Whether a command line only asks for something to read. -/
def isRequest (e : UsageError) : Bool := e == help || e == version

end UsageError

end ContextCompiler.Cli
