import ContextCompiler.Url.Host

/-!
URLs: reading them, alone or against a base, and writing them.

A text is cut from left to right: scheme, authority, path, query, fragment. The parts that a
relative text leaves out are those of the base. Written and read again, a URL stays the same.
-/

namespace ContextCompiler

/-- Who serves a URL. -/
structure Authority where
  user : List Char
  password : List Char
  host : Host
  port : Option Nat
  deriving DecidableEq, Repr

/-- The path of a URL: one text where the scheme knows no levels, else segments. -/
inductive UrlPath where
  | plain (text : List Char)
  | segments (names : List (List Char))
  deriving DecidableEq, Repr

/-- A URL. -/
structure Url where
  scheme : List Char
  authority : Option Authority
  path : UrlPath
  query : Option (List Char)
  fragment : Option (List Char)
  deriving DecidableEq, Repr

namespace Url

/-- The schemes with a host and their usual ports. -/
def usualPort? (scheme : List Char) : Option Nat :=
  match String.ofList scheme with
  | "http" | "ws" => some 80
  | "https" | "wss" => some 443
  | "ftp" => some 21
  | _ => none

/-- Whether URLs of a scheme always have an authority and a path with levels. -/
def isSpecial (scheme : List Char) : Bool :=
  (usualPort? scheme).isSome || scheme == "file".toList

/-! ## Writing -/

/-- The characters that are escaped in the plainest parts. -/
def isControl (c : Char) : Bool := c.toNat < 0x20 || 0x7F ≤ c.toNat

/-- The characters that are escaped in fragments. -/
def escapedInFragment (c : Char) : Bool := isControl c || " \"<>\x60".toList.contains c

/-- The characters that are escaped in queries. -/
def escapedInQuery (special : Bool) (c : Char) : Bool :=
  isControl c || " \"#<>".toList.contains c || (special && c == '\'')

/-- The characters that are escaped in paths. -/
def escapedInPath (c : Char) : Bool := escapedInFragment c || "#?\x7b\x7d".toList.contains c

/-- The characters that are escaped in names and passwords. -/
def escapedInUser (c : Char) : Bool := escapedInPath c || "/:;=@[\\]^|".toList.contains c

namespace UrlPath

/-- The text of a path. -/
def toChars : UrlPath → List Char
  | .plain s => s
  | .segments names => names.flatMap fun s => '/' :: s

end UrlPath

/-- The text of the name and the password of a user, with what parts them from the host. -/
def userChars (a : Authority) : List Char :=
  let password := if a.password.isEmpty then [] else ':' :: a.password
  if a.user.isEmpty && a.password.isEmpty then [] else a.user ++ password ++ ['@']

/-- The text of the host and the port. -/
def hostChars (a : Authority) : List Char :=
  let port :=
    match a.port with
    | some n => ':' :: (toString n).toList
    | none => []
  a.host.toChars ++ port

/-- The text of an authority. -/
def authorityChars (a : Authority) : List Char := userChars a ++ hostChars a

/-- What stands before the path. -/
def headChars (u : Url) : List Char :=
  match u.authority, u.path with
  | some a, _ => '/' :: '/' :: authorityChars a
  | none, .segments ([] :: _ :: _) => ['/', '.']
  | none, _ => []

/-- A URL without its fragment as text. -/
def wholeChars (u : Url) : List Char :=
  let query :=
    match u.query with
    | some q => '?' :: q
    | none => []
  u.scheme ++ [':'] ++ u.headChars ++ UrlPath.toChars u.path ++ query

/-- The text of a URL. -/
def toString (u : Url) : String :=
  let fragment :=
    match u.fragment with
    | some f => '#' :: f
    | none => []
  String.ofList (u.wholeChars ++ fragment)

/-- The text of a URL as it is asked for: without the fragment. -/
def requestText (u : Url) : String := String.ofList u.wholeChars

/-- The scheme as text. -/
def schemeText (u : Url) : String := String.ofList u.scheme

/-- The path as text. -/
def pathText (u : Url) : String := String.ofList (UrlPath.toChars u.path)

/-! ## Reading -/

/-- The text without the controls and spaces at its ends, and without line ends and tabs. -/
def cleaned (s : List Char) : List Char :=
  let isEnd (c : Char) : Bool := c.toNat ≤ 0x20
  let s := ((s.dropWhile isEnd).reverse.dropWhile isEnd).reverse
  s.filter fun c => c != '\t' && c != '\n' && c != '\r'

/-- Whether a character may stand in a scheme. -/
def isSchemeChar (c : Char) : Bool := c.isAlphanum || c == '+' || c == '-' || c == '.'

/-- The scheme at the start of a text, in lower case, and what follows its colon. -/
def scheme? (s : List Char) : Option (List Char × List Char) :=
  match s.span isSchemeChar with
  | (c :: name, ':' :: rest) =>
    if c.isAlpha then some ((c :: name).map Char.toLower, rest) else none
  | _ => none

/-- Whether a character parts the levels of a path. -/
def isSlash (special : Bool) (c : Char) : Bool := c == '/' || (special && c == '\\')

/-- What stands before the query or the fragment, and what follows. -/
def cutPath (s : List Char) : List Char × List Char := s.span fun c => c != '?' && c != '#'

/-- Query and fragment of the part that follows a path. -/
def queryAndFragment (special : Bool) (s : List Char) : Option (List Char) × Option (List Char) :=
  let fragmentOf (s : List Char) : Option (List Char) :=
    match s with
    | '#' :: f => some (Text.percentEncode escapedInFragment f)
    | _ => none
  match s with
  | '?' :: s =>
    let (q, rest) := s.span (· != '#')
    (some (Text.percentEncode (escapedInQuery special) q), fragmentOf rest)
  | s => (none, fragmentOf s)

/-- The pieces of a text between slashes. -/
def pieces (special : Bool) : List Char → List (List Char)
  | [] => [[]]
  | c :: s =>
    if isSlash special c then [] :: pieces special s
    else
      match pieces special s with
      | [] => [[c]]
      | p :: ps => (c :: p) :: ps

/-- A piece with its escaped points written out, to tell whether it goes nowhere or up. -/
def plainDots (s : List Char) : List Char :=
  Text.replaceAll ['%', '2', 'e'] ['.'] (Text.replaceAll ['%', '2', 'E'] ['.'] s)

/-- Whether a segment is the name of a drive, such as `C:`. -/
def isDrive (s : List Char) : Bool :=
  match s with
  | [c, d] => c.isAlpha && (d == ':' || d == '|')
  | _ => false

/-- The levels without the last one. A drive stays. -/
def shorten (isFile : Bool) (names : List (List Char)) : List (List Char) :=
  match names with
  | [d] => if isFile && isDrive d then [d] else []
  | names => names.dropLast

/-- Walks from some levels along pieces of a path. -/
def walk (isFile : Bool) : List (List Char) → List (List Char) → List (List Char)
  | names, [] => names
  | names, p :: rest =>
    let isLast := rest.isEmpty
    match plainDots p with
    | ['.'] => walk isFile (if isLast then names ++ [[]] else names) rest
    | ['.', '.'] =>
      let up := shorten isFile names
      walk isFile (if isLast then up ++ [[]] else up) rest
    | _ =>
      let p :=
        match p with
        | [c, '|'] => if isFile && names.isEmpty && c.isAlpha then [c, ':'] else p
        | _ => p
      walk isFile (names ++ [Text.percentEncode escapedInPath p]) rest

/-- The levels of a path that starts at the given levels. -/
def levels (scheme : List Char) (start : List (List Char)) (s : List Char) : List (List Char) :=
  walk (scheme == "file".toList) start (pieces (isSpecial scheme) s)

/-- The URL of a scheme and an authority with the path, query and fragment of a text. -/
def withPath (scheme : List Char) (authority : Option Authority) (start : List (List Char))
    (s : List Char) : Url :=
  let (path, rest) := cutPath s
  let (query, fragment) := queryAndFragment (isSpecial scheme) rest
  ⟨scheme, authority, .segments (levels scheme start path), query, fragment⟩

/-- The URL of a scheme and an authority with a path from the root on. The text may start with
a slash. -/
def fromRoot (scheme : List Char) (authority : Option Authority) (s : List Char) : Url :=
  let (path, rest) := cutPath s
  match path with
  | [] =>
    let (query, fragment) := queryAndFragment (isSpecial scheme) rest
    ⟨scheme, authority, .segments (if isSpecial scheme then [[]] else []), query, fragment⟩
  | c :: path' =>
    withPath scheme authority [] (if isSlash (isSpecial scheme) c then path' ++ rest else s)

/-- A port after its colon. -/
def readPort (scheme s : List Char) : Except UrlError (Option Nat) :=
  if s.all Char.isDigit then
    let n := s.foldl (fun n c => n * 10 + (c.toNat - '0'.toNat)) 0
    if n > 65535 then .error .badPort
    else .ok (if s.isEmpty || usualPort? scheme == some n then none else some n)
  else .error .badPort

/-- Cuts host and port at the first colon outside of brackets. -/
def cutPort (inBrackets : Bool) : List Char → List Char × Option (List Char)
  | [] => ([], none)
  | c :: s =>
    if c == ':' && !inBrackets then ([], some s)
    else
      let inside := if c == '[' then true else if c == ']' then false else inBrackets
      let (host, port) := cutPort inside s
      (c :: host, port)

/-- The name and the password in front of a host, the text of the host and the port, and whether
anything stands in front of it. -/
def cutUser (s : List Char) : List Char × List Char × List Char × Bool :=
  match Text.splitLast ['@'] s with
  | none => ([], [], s, false)
  | some (info, hostPort) =>
    match info.span (· != ':') with
    | (user, _ :: password) => (user, password, hostPort, !info.isEmpty)
    | (user, []) => (user, [], hostPort, !info.isEmpty)

/-- Reads a host. -/
def readHost (scheme s : List Char) : Except UrlError Host :=
  if isSpecial scheme then Host.read s else Host.readPlain s

/-- Reads an authority. -/
def readAuthority (scheme s : List Char) : Except UrlError Authority :=
  let (user, password, hostPort, named) := cutUser s
  let (host, port) := cutPort false hostPort
  if host.isEmpty && (isSpecial scheme || port.isSome || named) then .error .emptyHost
  else do
    let host ← readHost scheme host
    let port ← (port.map (readPort scheme)).getD (.ok none)
    let escaped := Text.percentEncode escapedInUser
    pure ⟨escaped user, escaped password, host, port⟩

/-- The URL of a scheme and the text after two slashes. -/
def afterSlashes (scheme s : List Char) : Except UrlError Url := do
  let special := isSpecial scheme
  let (authority, rest) := s.span fun c => !(isSlash special c || c == '?' || c == '#')
  pure (fromRoot scheme (some (← readAuthority scheme authority)) rest)

/-- The number of slashes at the start of a text. -/
def countSlashes (special : Bool) (s : List Char) : Nat := (s.takeWhile (isSlash special)).length

/-- The URL of a relative text against a base of the given levels. -/
def relative (base : Url) (names : List (List Char)) (s : List Char) : Except UrlError Url :=
  let special := isSpecial base.scheme
  match s with
  | [] => .ok { base with fragment := none }
  | '?' :: _ =>
    let (query, fragment) := queryAndFragment special s
    .ok { base with query := query, fragment := fragment }
  | '#' :: _ =>
    let (_, fragment) := queryAndFragment special s
    .ok { base with fragment := fragment }
  | c :: rest =>
    if isSlash true c then
      match s with
      | '/' :: '/' :: s => afterSlashes base.scheme s
      | _ =>
        if countSlashes true s ≥ 2 then afterSlashes base.scheme (s.dropWhile (isSlash true))
        else .ok (fromRoot base.scheme base.authority ('/' :: rest))
    else
      .ok (withPath base.scheme base.authority (shorten (base.scheme == "file".toList) names) s)

/-- The host of a URL of local files. -/
def readFileHost (s : List Char) : Except UrlError Host :=
  if s.isEmpty then .ok (.name [])
  else
    match Host.read s with
    | .ok (.name n) => .ok (.name (if n == "localhost".toList then [] else n))
    | r => r

/-- A URL of local files, after the scheme. -/
def readFile (base : Option Url) (s : List Char) : Except UrlError Url :=
  let scheme := "file".toList
  let nowhere : Option Authority := some ⟨[], [], .name [], none⟩
  match countSlashes true s with
  | 0 =>
    match base with
    | some b =>
      match b.path with
      | .segments names =>
        if isDrive (s.takeWhile fun c => !(isSlash true c || c == '?' || c == '#')) then
          .ok (fromRoot scheme nowhere s)
        else relative b names s
      | .plain _ => .ok (fromRoot scheme nowhere s)
    | none => .ok (fromRoot scheme nowhere s)
  | 1 =>
    match base with
    | some b =>
      let first := (s.drop 1).takeWhile fun c => !(isSlash true c || c == '?' || c == '#')
      match b.path with
      | .segments (drive :: _) =>
        if isDrive drive && !isDrive first then
          .ok (fromRoot scheme nowhere ('/' :: drive ++ s))
        else .ok (fromRoot scheme b.authority s)
      | _ => .ok (fromRoot scheme b.authority s)
    | none => .ok (fromRoot scheme nowhere s)
  | _ =>
    let s := s.drop 2
    let (host, rest) := s.span fun c => !(isSlash true c || c == '?' || c == '#')
    if isDrive host then .ok (fromRoot scheme nowhere s)
    else (readFileHost host).map fun h => fromRoot scheme (some ⟨[], [], h, none⟩) rest

/-- A URL of a scheme that has no fixed form, after the scheme. -/
def readOther (scheme s : List Char) : Except UrlError Url :=
  match s with
  | '/' :: '/' :: rest => afterSlashes scheme rest
  | '/' :: _ => .ok (fromRoot scheme none s)
  | s =>
    let (path, rest) := cutPath s
    let (query, fragment) := queryAndFragment false rest
    .ok ⟨scheme, none, .plain (Text.percentEncode isControl path), query, fragment⟩

/-- Reads a text as a URL, relative to a base if there is one. -/
def readWith (base : Option Url) (text : String) : Except UrlError Url :=
  let s := cleaned text.toList
  let file := "file".toList
  match scheme? s with
  | some (scheme, rest) =>
    if scheme == file then readFile (base.filter fun b => b.scheme == file) rest
    else if isSpecial scheme then
      match base with
      | some b =>
        match b.path with
        | .segments names =>
          if b.scheme == scheme && countSlashes true rest < 2 then relative b names rest
          else afterSlashes scheme (rest.dropWhile (isSlash true))
        | .plain _ => afterSlashes scheme (rest.dropWhile (isSlash true))
      | none => afterSlashes scheme (rest.dropWhile (isSlash true))
    else readOther scheme rest
  | none =>
    match base with
    | none => .error .noBase
    | some b =>
      match b.path with
      | .plain _ =>
        match s with
        | '#' :: _ => .ok { b with fragment := (queryAndFragment false s).2 }
        | _ => .error .baseOpaque
      | .segments names => if b.scheme == file then readFile (some b) s else relative b names s

/-- Reads a text as a URL. -/
def read (text : String) : Except UrlError Url := readWith none text

/-- Resolves a text against a URL. -/
def join (base : Url) (text : String) : Except UrlError Url := readWith (some base) text

end Url

end ContextCompiler
