import ContextCompiler.Regex.Basic
import ContextCompiler.Text.Search

/-!
Reading regular expressions.

An expression is read from left to right under a set of flags, which groups save and restore.
Every step takes at least one character, so the length of the text bounds the work.
-/

namespace ContextCompiler.Regex

/-- How the signs of an expression are to be taken. -/
structure Flags where
  anyCase : Bool
  multiline : Bool
  dotAll : Bool
  swapGreed : Bool
  unicode : Bool
  spaced : Bool
  crlf : Bool

namespace Flags

/-- The flags at the start of an expression. -/
def start : Flags := ⟨false, false, false, false, true, false, false⟩

/-- Switches the flag of a letter. -/
def set (f : Flags) (letter : Char) (on : Bool) : Option Flags :=
  match letter with
  | 'i' => some { f with anyCase := on }
  | 'm' => some { f with multiline := on }
  | 's' => some { f with dotAll := on }
  | 'U' => some { f with swapGreed := on }
  | 'u' => some { f with unicode := on }
  | 'x' => some { f with spaced := on }
  | 'R' => some { f with crlf := on }
  | _ => none

end Flags

/-- The line feed ends comments. -/
def dropComment (s : List Char) : List Char := s.dropWhile (· != '\n')

theorem dropComment_length (s : List Char) : (dropComment s).length ≤ s.length :=
  (List.dropWhile_sublist (· != '\n')).length_le

/-- Passes over blanks and comments, where the flags allow them. -/
def skipBlanks (f : Flags) : List Char → List Char
  | [] => []
  | c :: s =>
    if !f.spaced then c :: s
    else if Text.isBlank c then skipBlanks f s
    else if c == '#' then skipBlanks f (dropComment s)
    else c :: s
termination_by s => s.length
decreasing_by
  · exact Nat.lt_succ_self _
  · exact Nat.lt_succ_of_le (dropComment_length s)

/-- The value of a hexadecimal digit. -/
def hexDigit? (c : Char) : Option Nat :=
  if '0' ≤ c && c ≤ '9' then some (c.toNat - '0'.toNat)
  else if 'a' ≤ c && c ≤ 'f' then some (c.toNat - 'a'.toNat + 10)
  else if 'A' ≤ c && c ≤ 'F' then some (c.toNat - 'A'.toNat + 10)
  else none

/-- The value of a hexadecimal number. -/
def hexValue? (cs : List Char) : Option Nat :=
  cs.foldl (fun acc c => do pure ((← acc) * 16 + (← hexDigit? c))) (some 0)

/-- The character of a hexadecimal code. -/
def charOfHex? (cs : List Char) : Option Char :=
  if cs.isEmpty || cs.length > 8 then none
  else
    match hexValue? cs with
    | none => none
    | some n => if n < 0xD800 || (0xE000 ≤ n && n < 0x110000) then some (Char.ofNat n) else none

/-- A character by its code: `width` hexadecimal digits, or any number of them in braces. -/
def codeEscape? (width : Nat) (s : List Char) : Option (Char × List Char) :=
  match s with
  | '\x7b' :: s =>
    match s.span (· != '\x7d') with
    | (digits, _ :: rest) => (charOfHex? digits).map fun c => (c, rest)
    | _ => none
  | s =>
    if s.length < width then none
    else (charOfHex? (s.take width)).map fun c => (c, s.drop width)

/-- The parts of a property's text around `!=`, `:` or `=`, whichever of these in this order
occurs: a name and a value. -/
def nameAndValue? (s : List Char) : Option (List Char × List Char) :=
  ((Text.splitFirst ['!', '='] s).orElse fun _ => Text.splitFirst [':'] s).orElse fun _ =>
    Text.splitFirst ['='] s

/-- The set of a property's text. -/
def propertySet? (s : List Char) : Option CharSet :=
  let found :=
    match nameAndValue? s with
    | some (name, value) => Text.Property.ofValue? name value
    | none => Text.Property.ofName? s
  found.map CharSet.named

/-- A property after `\p`: one letter, or a name in braces. -/
def property? (f : Flags) (negated : Bool) (s : List Char) : Option (CharSet × List Char) := do
  if !f.unicode then none
  let (name, rest) ←
    match skipBlanks f s with
    | '\x7b' :: s =>
      match s.span (· != '\x7d') with
      | (name, _ :: rest) => some (if f.spaced then name.filter (!Text.isBlank ·) else name, rest)
      | _ => none
    | c :: rest => if c == '\\' then none else some ([c], rest)
    | [] => none
  let set ← propertySet? name
  let set := if f.anyCase then CharSet.anyCase set else set
  pure (if negated then .compl set else set, rest)

/-- What one escape stands for. -/
inductive Escaped where
  | char (c : Char)
  | set (a : CharSet)
  | anchor (a : Anchor)

/-- Whether a character may be escaped to stand for itself. -/
def isEscapable (c : Char) : Bool :=
  c.toNat < 128 && !c.isAlphanum && c != '<' && c != '>'

/-- The sets of ASCII letters and digits that escapes stand for without the Unicode flag. -/
def asciiWord : CharSet :=
  .union (.range 'a' 'z') (.union (.range 'A' 'Z') (.union (.range '0' '9') (.single '_')))

/-- The ASCII blanks. -/
def asciiBlank : CharSet := .union (.range '\t' '\r') (.single ' ')

/-- A named set, or without the Unicode flag its ASCII part. -/
def namedSet? (f : Flags) (set ascii : CharSet) (negated : Bool) : Option CharSet :=
  if f.unicode then some (if negated then .compl set else set)
  else if negated then none
  else some ascii

/-- The word edges that are written out in braces. -/
def edgeNames : List (String × WordEdge) :=
  [("start", .start), ("end", .stop), ("start-half", .notAfter), ("end-half", .notBefore)]

/-- Reads what follows a backslash. -/
def escape? (f : Flags) : List Char → Option (Escaped × List Char)
  | [] => none
  | c :: s =>
    let set (named : Option CharSet) : Option (Escaped × List Char) :=
      named.map fun a => (.set a, s)
    let edge (e : WordEdge) (s : List Char) : Option (Escaped × List Char) :=
      some (.anchor (.atWord e !f.unicode), s)
    match c with
    | 'a' => some (.char '\x07', s)
    | 'f' => some (.char '\x0c', s)
    | 't' => some (.char '\t', s)
    | 'n' => some (.char '\n', s)
    | 'r' => some (.char '\r', s)
    | 'v' => some (.char '\x0b', s)
    | 'A' => some (.anchor .textStart, s)
    | 'z' => some (.anchor .textEnd, s)
    | 'B' => edge .noEdge s
    | '<' => edge .start s
    | '>' => edge .stop s
    | 'b' =>
      match s with
      | '\x7b' :: t =>
        match t.span (· != '\x7d') with
        | (name, _ :: rest) =>
          match edgeNames.find? (·.1 == String.ofList name) with
          | some (_, e) => edge e rest
          | none => if name.all fun c => c.isAlpha || c == '-' then none else edge .edge s
        | _ => edge .edge s
      | _ => edge .edge s
    | 'd' => set (namedSet? f .digit (.range '0' '9') false)
    | 'D' => set (namedSet? f .digit (.range '0' '9') true)
    | 's' => set (namedSet? f .blank asciiBlank false)
    | 'S' => set (namedSet? f .blank asciiBlank true)
    | 'w' => set (namedSet? f .word asciiWord false)
    | 'W' => set (namedSet? f .word asciiWord true)
    | 'p' => (property? f false s).map fun (a, rest) => (.set a, rest)
    | 'P' => (property? f true s).map fun (a, rest) => (.set a, rest)
    | 'x' =>
      let isByte := s.head? != some '\x7b'
      (codeEscape? 2 s).bind fun (c, rest) =>
        if isByte && !f.unicode && 128 ≤ c.toNat then none else some (.char c, rest)
    | 'u' => (codeEscape? 4 s).map fun (c, rest) => (.char c, rest)
    | 'U' => (codeEscape? 8 s).map fun (c, rest) => (.char c, rest)
    | c => if isEscapable c then some (.char c, s) else none

/-- The sets that have names inside brackets. -/
def bracketNames : List (String × CharSet) :=
  let figures : CharSet := .range '0' '9'
  let lower : CharSet := .range 'a' 'z'
  let upper : CharSet := .range 'A' 'Z'
  let alpha : CharSet := .union lower upper
  let punct : CharSet :=
    .union (.range '!' '/') (.union (.range ':' '@') (.union (.range '[' '\x60')
      (.range '\x7b' '~')))
  [("alnum", .union figures alpha), ("alpha", alpha), ("ascii", .range '\x00' '\x7f'),
   ("blank", .ofString " \t"), ("cntrl", .union (.range '\x00' '\x1f') (.single '\x7f')),
   ("digit", figures), ("graph", .range '!' '~'), ("lower", lower), ("print", .range ' ' '~'),
   ("punct", punct), ("space", asciiBlank), ("upper", upper), ("word", asciiWord),
   ("xdigit", .union figures (.union (.range 'a' 'f') (.range 'A' 'F')))]

/-- A named set such as `[:alpha:]`, after its opening bracket. -/
def bracketName? (s : List Char) : Option (CharSet × List Char) :=
  match s with
  | ':' :: s =>
    let (negated, s) :=
      match s with
      | '^' :: s => (true, s)
      | s => (false, s)
    match s.span (· != ':') with
    | (name, ':' :: ']' :: rest) =>
      match bracketNames.find? (·.1 == String.ofList name) with
      | some (_, a) => some (if negated then .compl a else a, rest)
      | none => none
    | _ => none
  | _ => none

/-- An operation on two sets. -/
inductive SetOp where
  | inter
  | diff
  | symDiff

namespace SetOp

/-- The set that an operation makes of two. -/
def apply (op : SetOp) (a b : CharSet) : CharSet :=
  match op with
  | inter => .inter a b
  | diff => .inter a (.compl b)
  | symDiff => .union (.inter a (.compl b)) (.inter b (.compl a))

end SetOp

/-- A set in brackets that is being read: whether it is negated, what stands before the last
operation, and the union since. -/
structure OpenSet where
  negated : Bool
  before : Option (CharSet × SetOp)
  items : CharSet

namespace OpenSet

/-- Adds items. -/
def add (o : OpenSet) (a : CharSet) : OpenSet :=
  { o with items := match o.items with
    | .none => a
    | items => .union items a }

/-- The set of all that was read so far, without the negation. -/
def total (f : Flags) (o : OpenSet) : CharSet :=
  let cased (a : CharSet) : CharSet :=
    if !f.anyCase then a else if f.unicode then .anyCase a else .anyAsciiCase a
  match o.before with
  | none => cased o.items
  | some (a, op) => op.apply a (cased o.items)

/-- The set at its closing bracket. Without the Unicode flag it holds ASCII characters only. -/
def close? (f : Flags) (o : OpenSet) : Option CharSet :=
  let a := o.total f
  let a := if o.negated then .compl a else a
  if f.unicode || !a.has '\x80' then some a else none

/-- The set after an operation sign. -/
def operate (f : Flags) (o : OpenSet) (op : SetOp) : OpenSet :=
  { o with before := some (o.total f, op), items := .none }

end OpenSet

/-- What follows the opening bracket of a set: a negation sign, and signs that stand for
themselves. -/
def openSet (f : Flags) (s : List Char) : OpenSet × List Char :=
  let s := skipBlanks f s
  let (negated, s) :=
    match s with
    | '^' :: s => (true, skipBlanks f s)
    | s => (false, s)
  let (dashes, s) := s.span (· == '-')
  let s := if dashes.isEmpty then s else skipBlanks f s
  let o : OpenSet := ⟨negated, none, if dashes.isEmpty then .none else .single '-'⟩
  match dashes.isEmpty, s with
  | true, ']' :: s => (o.add (.single ']'), s)
  | _, s => (o, s)

/-- One item of a set: a character, or a set of its own. -/
def setItem? (f : Flags) : List Char → Option (Escaped × List Char)
  | [] => none
  | '\\' :: s =>
    match escape? f s with
    | some (.anchor _, _) => none
    | some (.char c, rest) => if f.unicode || c.toNat < 128 then some (.char c, rest) else none
    | r => r
  | c :: s => if f.unicode || c.toNat < 128 then some (.char c, s) else none

/-- An item or a range of characters. -/
def setRange? (f : Flags) (s : List Char) : Option (CharSet × List Char) := do
  let (item, s) ← setItem? f s
  let s := skipBlanks f s
  let alone : Option (CharSet × List Char) :=
    match item with
    | .char c => some (.single c, s)
    | .set a => some (a, s)
    | .anchor _ => none
  match s with
  | [] => none
  | '-' :: after =>
    match skipBlanks f after with
    | ']' :: _ => alone
    | '-' :: _ => alone
    | after =>
      let (last, rest) ← setItem? f after
      match item, last with
      | .char lo, .char hi => if lo ≤ hi then some (.range lo hi, rest) else none
      | _, _ => none
  | _ => alone

/-- Reads a set after its opening bracket, inside the sets that are open around it. -/
def readSet? (f : Flags) : Nat → OpenSet → List OpenSet → List Char →
    Option (CharSet × List Char)
  | 0, _, _, _ => none
  | fuel + 1, o, outer, s =>
    match skipBlanks f s with
    | [] => none
    | '[' :: s =>
      match bracketName? s with
      | some (a, rest) => readSet? f fuel (o.add a) outer rest
      | none =>
        if outer.length > 250 then none
        else
          let (inner, rest) := openSet f s
          readSet? f fuel inner (o :: outer) rest
    | ']' :: s =>
      match o.close? f, outer with
      | none, _ => none
      | some a, [] => some (a, s)
      | some a, o :: outer => readSet? f fuel (o.add a) outer s
    | '&' :: '&' :: s => readSet? f fuel (o.operate f .inter) outer s
    | '-' :: '-' :: s => readSet? f fuel (o.operate f .diff) outer s
    | '~' :: '~' :: s => readSet? f fuel (o.operate f .symDiff) outer s
    | s =>
      match setRange? f s with
      | some (a, rest) => readSet? f fuel (o.add a) outer rest
      | none => none

/-- A number of rounds: the digits with the blanks around them. -/
def readCount? (f : Flags) (s : List Char) : Option (Nat × List Char) :=
  let s := s.dropWhile Text.isBlank
  let (digits, s) := s.span fun c => '0' ≤ c && c ≤ '9'
  let s := skipBlanks f (s.dropWhile Text.isBlank)
  if digits.isEmpty then none
  else
    let n := digits.foldl (fun n c => n * 10 + (c.toNat - '0'.toNat)) 0
    if n < Nat.pow 2 32 then some (n, s) else none

/-- The numbers of rounds between braces, after the opening brace. -/
def readBounds? (f : Flags) (s : List Char) : Option (Nat × Option Nat × List Char) := do
  let (min, s) ← readCount? f (skipBlanks f s)
  match s with
  | '\x7d' :: rest => some (min, some min, rest)
  | ',' :: s =>
    match skipBlanks f s with
    | '\x7d' :: rest => some (min, none, rest)
    | s =>
      let (max, s) ← readCount? f s
      match s with
      | '\x7d' :: rest => if min ≤ max then some (min, some max, rest) else none
      | _ => none
  | _ => none

/-- Reads flags up to `:` or `)`; that sign is left in place. -/
def readFlags? (f : Flags) (seen : List Char) (on : Bool) : List Char →
    Option (Flags × Bool × List Char)
  | [] => none
  | c :: s =>
    if c == ':' || c == ')' then
      if seen.head? == some '-' then none else some (f, seen.isEmpty, c :: s)
    else if seen.contains c then none
    else if c == '-' then readFlags? f (c :: seen) false s
    else
      match f.set c on with
      | some f => readFlags? f (c :: seen) on s
      | none => none

/-- Whether a text names a group. -/
def isGroupName (name : List Char) : Bool :=
  match name with
  | [] => false
  | c :: s =>
    let isAlpha (c : Char) : Bool := c.isAlpha || (c.toNat ≥ 128 && Text.isWordChar c)
    (c == '_' || isAlpha c)
      && s.all fun c => isAlpha c || c.isDigit || c == '_' || c == '.' || c == '[' || c == ']'

/-- What has been read of an expression: the flags in force, the groups so far with their
names, the branches before this one, and the parts of this one, latest first. -/
structure Reading where
  flags : Flags
  groups : Nat
  names : List (List Char)
  branches : List Regex
  parts : List Regex
  /-- Whether the latest part can be repeated. -/
  repeatable : Bool

namespace Reading

/-- Adds a part. -/
def add (w : Reading) (r : Regex) : Reading := { w with parts := r :: w.parts, repeatable := true }

/-- Ends a branch. -/
def branch (w : Reading) : Reading :=
  { w with branches := seqs w.parts.reverse :: w.branches, parts := [], repeatable := false }

/-- The expression of all branches. -/
def whole (w : Reading) : Regex := alts w.branch.branches.reverse

/-- The reading inside a group that opens here. -/
def inner (w : Reading) (f : Flags) : Reading :=
  { w with flags := f, branches := [], parts := [], repeatable := false }

/-- Goes on behind a group with what was read inside it. -/
def afterGroup (w inside : Reading) (r : Regex) : Reading :=
  { w with groups := inside.groups, names := inside.names }.add r

/-- Repeats the latest part. -/
def repeated? (w : Reading) (min : Nat) (max : Option Nat) (s : List Char) :
    Option (Reading × List Char) :=
  match w.repeatable, w.parts with
  | true, r :: parts =>
    let (lazy_, s) :=
      match s with
      | '?' :: s => (true, s)
      | s => (false, s)
    some ({ w with parts := .rep r min max (lazy_ == w.flags.swapGreed) :: parts }, s)
  | _, _ => none

/-- Any character, or any but those that end a line. -/
def dot? (w : Reading) : Option CharSet :=
  if !w.flags.unicode then none
  else if w.flags.dotAll then some .all
  else if w.flags.crlf then some (.compl (.ofString "\r\n"))
  else some (.compl (.single '\n'))

/-- A character that stands for itself. -/
def charSet (w : Reading) (c : Char) : CharSet :=
  if !w.flags.anyCase then .single c
  else if w.flags.unicode then .caseOf c
  else .anyAsciiCase (.single c)

/-- The start of a text or a line. -/
def caret (w : Reading) : Anchor :=
  if !w.flags.multiline then .textStart else if w.flags.crlf then .anyLineStart else .lineStart

/-- The end of a text or a line. -/
def dollar (w : Reading) : Anchor :=
  if !w.flags.multiline then .textEnd else if w.flags.crlf then .anyLineEnd else .lineEnd

/-- Adds what an escape stands for. -/
def addEscaped (w : Reading) : Escaped → Reading
  | .char c => w.add (.one (w.charSet c))
  | .set a => w.add (.one a)
  | .anchor a => w.add (.anchor a)

end Reading

/-- Opens a group with a name, after the sign `<`. -/
def groupName? (w : Reading) (s : List Char) : Option (Reading × List Char) :=
  match s.span (· != '>') with
  | (name, _ :: rest) =>
    if isGroupName name && !w.names.contains name then
      some ({ w with names := name :: w.names }, rest)
    else none
  | _ => none

/-- Reads an expression up to a closing parenthesis or the end; `depth` counts the groups that
are open. -/
def readUntilClose? : Nat → Nat → Reading → List Char → Option (Reading × List Char)
  | 0, _, _, _ => none
  | fuel + 1, depth, w, s =>
    let go := readUntilClose? fuel depth
    let captured (w : Reading) (s : List Char) : Option (Reading × List Char) := do
      let index := w.groups + 1
      let (inside, rest) ← readUntilClose? fuel (depth + 1)
        ({ w with groups := index }.inner w.flags) s
      match rest with
      | ')' :: rest => go (w.afterGroup inside (.group index inside.whole)) rest
      | _ => none
    match skipBlanks w.flags s with
    | [] => some (w, [])
    | ')' :: s => if depth == 0 then none else some (w, ')' :: s)
    | '|' :: s => go w.branch s
    | '*' :: s => (w.repeated? 0 none s).bind fun (w, s) => go w s
    | '+' :: s => (w.repeated? 1 none s).bind fun (w, s) => go w s
    | '?' :: s => (w.repeated? 0 (some 1) s).bind fun (w, s) => go w s
    | '\x7b' :: s => do
      let (min, max, s) ← readBounds? w.flags s
      let (w, s) ← w.repeated? min max s
      go w s
    | '.' :: s => do go (w.add (.one (← w.dot?))) s
    | '^' :: s => go (w.add (.anchor w.caret)) s
    | '$' :: s => go (w.add (.anchor w.dollar)) s
    | '\\' :: s => do
      let (e, s) ← escape? w.flags s
      go (w.addEscaped e) s
    | '[' :: s => do
      let (o, s) := openSet w.flags s
      let (a, s) ← readSet? w.flags (s.length + 1) o [] s
      go (w.add (.one a)) s
    | '(' :: s =>
      if depth > 250 then none
      else
        match skipBlanks w.flags s with
        | '?' :: 'P' :: '<' :: s => (groupName? w s).bind fun (w, s) => captured w s
        | '?' :: '<' :: s => (groupName? w s).bind fun (w, s) => captured w s
        | '?' :: s => do
          let (f, noFlags, s) ← readFlags? w.flags [] true s
          match s with
          | ')' :: s => if noFlags then none else go { w with flags := f, repeatable := false } s
          | _ :: s =>
            let (inside, rest) ← readUntilClose? fuel (depth + 1) (w.inner f) s
            match rest with
            | ')' :: rest => go (w.afterGroup inside inside.whole) rest
            | _ => none
          | [] => none
        | s => captured w s
    | c :: s => go (w.add (.one (w.charSet c))) s

/-- Reads a regular expression. -/
def read? (pattern : String) : Option Regex :=
  let s := pattern.toList
  match readUntilClose? (2 * s.length + 2) 0 ⟨.start, 0, [], [], [], false⟩ s with
  | some (w, []) => some w.whole
  | _ => none

end ContextCompiler.Regex
