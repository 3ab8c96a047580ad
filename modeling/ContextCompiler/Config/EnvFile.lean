import ContextCompiler.Config.Variables
import ContextCompiler.Storage.Basic
import ContextCompiler.Text.Lines

/-!
Files of environment variables, and the scope of the environment.

Every line gives one variable, in the manner of shells: an optional `export`, quotes of two kinds,
escapes, references to variables, and comments. The environment itself goes before the variables
of earlier lines where a value refers to one. The first line that cannot be read ends the work.
-/

namespace ContextCompiler

namespace EnvFile

/-- Where the reading of a value stands. -/
inductive ValueMode where
  | plain
  | single
  | double
  | escaped (inDouble : Bool)
  /-- After a dollar sign. -/
  | reference (inDouble : Bool)
  /-- After a dollar sign and a brace. -/
  | braced (inDouble : Bool)
  /-- After blanks: only a comment may follow. -/
  | ended

/-- What a reference stands for. -/
def lookup (env earlier : Scope) (name : List Char) : List Char :=
  let name := String.ofList name
  match env.get? name with
  | some v => v.toList
  | none => ((earlier.get? name).getD "").toList

/-- Whether a character goes on with the name of a reference. -/
def isNameChar (c : Char) : Bool :=
  if c.toNat < 128 then c.isAlphanum
  else
    let (a, _) := Text.category c
    a == 'L' || a == 'N'

/-- Back to the text outside or inside of double quotes. -/
def quoted (inDouble : Bool) : ValueMode := if inDouble then .double else .plain

/-- Reads a value: `out` is what was read so far and `name` the name of a reference, both
backwards. -/
def readValue (env earlier : Scope) : ValueMode → List Char → List Char → List Char →
    Option (List Char)
  | mode, out, name, [] =>
    match mode with
    | .plain => some out.reverse
    | .ended => some out.reverse
    | .escaped false => some out.reverse
    | .reference false => some (out.reverse ++ lookup env earlier name.reverse)
    | _ => none
  | mode, out, name, c :: s =>
    match mode with
    | .ended =>
      if c == ' ' || c == '\t' then readValue env earlier .ended out name s
      else if c == '#' then some out.reverse
      else none
    | .escaped inDouble =>
      if ['\\', '\'', '"', '$', ' '].contains c then
        readValue env earlier (quoted inDouble) (c :: out) name s
      else if c == 'n' then readValue env earlier (quoted inDouble) ('\n' :: out) name s
      else none
    | .single =>
      if c == '\'' then readValue env earlier .plain out name s
      else readValue env earlier .single (c :: out) name s
    | .reference inDouble =>
      if isNameChar c then readValue env earlier (.reference inDouble) out (c :: name) s
      else if c == '\x7b' && name.isEmpty then
        readValue env earlier (.braced inDouble) out name s
      else
        let out := (lookup env earlier name.reverse).reverse ++ out
        if c == '$' then readValue env earlier (.reference inDouble) out [] s
        else readValue env earlier (quoted inDouble) (c :: out) [] s
    | .braced inDouble =>
      if c == '\x7d' then
        readValue env earlier (quoted inDouble)
          ((lookup env earlier name.reverse).reverse ++ out) [] s
      else readValue env earlier (.braced inDouble) out (c :: name) s
    | .double =>
      if c == '$' then readValue env earlier (.reference true) out name s
      else if c == '"' then readValue env earlier .plain out name s
      else if c == '\\' then readValue env earlier (.escaped true) out name s
      else readValue env earlier .double (c :: out) name s
    | .plain =>
      if c == '$' then readValue env earlier (.reference false) out name s
      else if c == '\'' then readValue env earlier .single out name s
      else if c == '"' then readValue env earlier .double out name s
      else if c == '\\' then readValue env earlier (.escaped false) out name s
      else if c == ' ' || c == '\t' then readValue env earlier .ended out name s
      else readValue env earlier .plain (c :: out) name s

/-- The name of a variable, and what follows it. -/
def readKey? (s : List Char) : Option (String × List Char) :=
  match s with
  | c :: _ =>
    if c.isAlpha || c == '_' then
      let (key, rest) := s.span fun c => c.isAlphanum || c == '_' || c == '.'
      some (String.ofList key, rest.dropWhile Text.isBlank)
    else none
  | [] => none

/-- What follows the name of a variable and the equals sign, with the name. -/
def readHead? (s : List Char) : Option (String × List Char) :=
  match readKey? s with
  | none => none
  | some (key, '=' :: rest) => some (key, rest.dropWhile Text.isBlank)
  | some (key, rest) =>
    if key == "export" then
      match readKey? rest with
      | some (key, '=' :: rest) => some (key, rest.dropWhile Text.isBlank)
      | _ => none
    else none

/-- Reads the lines of a file in order; `earlier` holds the variables of the lines before. -/
def readLines (env : Scope) : Scope → List (List Char) → Option Scope
  | earlier, [] => some earlier
  | earlier, line :: rest =>
    match (Text.dropEndWhile Text.isBlank line).dropWhile Text.isBlank with
    | [] => readLines env earlier rest
    | '#' :: _ => readLines env earlier rest
    | s =>
      match readHead? s with
      | none => none
      | some (key, value) =>
        match value with
        | [] => readLines env (earlier.insert key "") rest
        | '#' :: _ => readLines env (earlier.insert key "") rest
        | value =>
          match readValue env earlier .plain [] [] value with
          | none => none
          | some v => readLines env (earlier.insert key (String.ofList v)) rest

/-- The variables of a file. -/
def read? (env : Scope) (text : String) : Option Scope :=
  readLines env .empty (Text.lineChars text.toList)

end EnvFile

/-- The scope of the environment, with the variables of a file over it. -/
def Scope.ofEnvironment (storage : Storage) (env : Scope) (file : Option String) :
    Except Failure Scope :=
  match file with
  | none => .ok env
  | some path =>
    match storage.entryAt path with
    | .error fault =>
      .error (.config ("failed to read env file " ++ path ++ ": " ++ fault.message))
    | .ok _ =>
      let refused : Except Failure Scope :=
        .error (.config ("invalid line in env file " ++ path ++ ": unreadable"))
      match storage.readText path with
      | .error _ => refused
      | .ok text =>
        match EnvFile.read? env text with
        | some vars => .ok (env.merge vars)
        | none => refused

end ContextCompiler
