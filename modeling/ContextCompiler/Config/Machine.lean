import ContextCompiler.Config.Variables

/-!
The machine that a run takes place on, and the variables that it gives every document.
-/

namespace ContextCompiler

/-- A moment, in seconds since the start of 1970 at the meridian, and the local time. -/
structure Moment where
  seconds : Nat
  /-- How many seconds the local time is ahead. -/
  ahead : Int
  deriving DecidableEq, Repr

/-- What a run can know of its machine. -/
structure Machine where
  now : Moment
  system : String
  processor : String
  processors : Nat
  /-- What the file that names the machine says. -/
  hostFile : Option String
  deriving Repr

namespace Moment

/-- The year, month and day of a number of days since the start of 1970. Years are counted from
March on, so that the day that comes every fourth year is the last one of its year. -/
def civil (days : Nat) : Nat × Nat × Nat :=
  let z := days + 719468
  let era := z / 146097
  let day := z % 146097
  let year := (day - day / 1460 + day / 36524 - day / 146096) / 365
  let dayOfYear := day - (365 * year + year / 4 - year / 100)
  let month := (5 * dayOfYear + 2) / 153
  let year := year + era * 400
  (if month < 10 then year else year + 1, if month < 10 then month + 3 else month - 9,
    dayOfYear - (153 * month + 2) / 5 + 1)

/-- A number with at least `width` digits. -/
def padded (width n : Nat) : String :=
  let digits := Nat.toDigits 10 n
  String.ofList (List.replicate (width - digits.length) '0' ++ digits)

/-- The local seconds of a moment. -/
def localSeconds (m : Moment) : Nat := (m.seconds + m.ahead).toNat

/-- The local date. -/
def date (m : Moment) : String :=
  let (year, month, day) := civil (m.localSeconds / 86400)
  padded 4 year ++ "-" ++ padded 2 month ++ "-" ++ padded 2 day

/-- The local time of day. -/
def time (m : Moment) : String :=
  let s := m.localSeconds % 86400
  padded 2 (s / 3600) ++ ":" ++ padded 2 (s / 60 % 60) ++ ":" ++ padded 2 (s % 60)

end Moment

/-- The directory that a user is at home in. -/
def homeOf (env : Scope) : Option String := (env.get? "HOME").filter (· != "")

namespace Machine

/-- The name of the machine. The environment goes before the file. -/
def hostName (m : Machine) (env : Scope) : Option String :=
  (((env.get? "HOSTNAME").orElse fun _ => env.get? "COMPUTERNAME").orElse fun _ =>
    m.hostFile.map Text.trim).filter (· != "")

/-- The variables of every document of a run in a directory. -/
def vars (m : Machine) (env : Scope) (workDir : String) : Scope :=
  let found : List (String × Option String) :=
    [("DATETIME", some (m.now.date ++ " " ++ m.now.time)), ("DATE", some m.now.date),
     ("TIME", some m.now.time), ("TIMESTAMP", some (toString m.now.seconds)),
     ("OS", some m.system), ("ARCH", some m.processor), ("PWD", some workDir),
     ("USER", (env.get? "USER").orElse fun _ => env.get? "USERNAME"), ("HOME", homeOf env),
     ("HOSTNAME", m.hostName env)]
  SortedMap.ofList (found.filterMap fun (key, value) => value.map fun v => (key, v))

end Machine

end ContextCompiler
