import ContextCompiler.Config.SortedMap
import ContextCompiler.Text.Utf8
import ContextCompiler.Url.Basic
import ContextCompiler.Failure

/-!
Requests over the web, and how far work has come with them.

The web is a table of answers. Work that asks it keeps a record of what was asked. A request that
cannot be made, cannot be sent, or is not answered with success fails, and the failure names the
URL that was wanted.
-/

namespace ContextCompiler

/-- A request: its URL and its headers. -/
structure Request where
  url : String
  headers : List (String × String)
  deriving DecidableEq, Repr

/-- The answer to a request. -/
structure Answer where
  status : Nat
  headers : List (String × String)
  body : List UInt8
  deriving DecidableEq, Repr

/-- The answers by the URLs that they are given for, and whether requests get out at all. -/
structure Web where
  answers : SortedMap Answer
  isUp : Bool

/-- What work has done so far outside of the storage, and whether it has been told to stop. -/
structure Traffic where
  requests : List Request
  /-- The arguments of every call of git. -/
  commands : List (List String)
  cancelled : Bool

/-- Why work came to no result. -/
inductive Halt where
  | failure (e : Failure)
  /-- No answer ever comes. -/
  | silence

/-- Work that leaves a record. -/
abbrev Fetching (α : Type) : Type := ExceptT Halt (StateM Traffic) α

namespace Traffic

/-- Nothing has been done. -/
def none : Traffic := ⟨[], [], false⟩

end Traffic

namespace Fetching

/-- Gives up. -/
def fail {α : Type} (e : Failure) : Fetching α := throw (.failure e)

/-- The result of plain work. -/
def ofExcept {α : Type} (r : Except Failure α) : Fetching α :=
  match r with
  | .ok v => pure v
  | .error e => fail e

end Fetching

namespace Answer

/-- Whether an answer tells of success. -/
def isSuccess (a : Answer) : Bool := 200 ≤ a.status && a.status < 300

/-- A header by its name in lower case. -/
def header? (a : Answer) (name : String) : Option String :=
  (a.headers.find? fun (k, _) => Text.lowerAscii k == name).map (·.2)

/-- A header whose value is plain text. -/
def plainHeader? (a : Answer) (name : String) : Option String :=
  (a.header? name).filter fun v => v.toList.all fun c =>
    (' ' ≤ c && c.toNat < 127) || c == '\t'

/-- The body as text. -/
def text (a : Answer) : String := String.ofList (Text.ofUtf8Lossy a.body)

end Answer

namespace Web

/-- The reasons of status codes. -/
def reasons : List (Nat × String) :=
  [(100, "Continue"), (101, "Switching Protocols"), (102, "Processing"), (200, "OK"),
   (201, "Created"), (202, "Accepted"), (203, "Non Authoritative Information"),
   (204, "No Content"), (205, "Reset Content"), (206, "Partial Content"), (207, "Multi-Status"),
   (208, "Already Reported"), (226, "IM Used"), (300, "Multiple Choices"),
   (301, "Moved Permanently"), (302, "Found"), (303, "See Other"), (304, "Not Modified"),
   (305, "Use Proxy"), (307, "Temporary Redirect"), (308, "Permanent Redirect"),
   (400, "Bad Request"), (401, "Unauthorized"), (402, "Payment Required"), (403, "Forbidden"),
   (404, "Not Found"), (405, "Method Not Allowed"), (406, "Not Acceptable"),
   (407, "Proxy Authentication Required"), (408, "Request Timeout"), (409, "Conflict"),
   (410, "Gone"), (411, "Length Required"), (412, "Precondition Failed"),
   (413, "Payload Too Large"), (414, "URI Too Long"), (415, "Unsupported Media Type"),
   (416, "Range Not Satisfiable"), (417, "Expectation Failed"), (418, "I'm a teapot"),
   (421, "Misdirected Request"), (422, "Unprocessable Entity"), (423, "Locked"),
   (424, "Failed Dependency"), (425, "Too Early"), (426, "Upgrade Required"),
   (428, "Precondition Required"), (429, "Too Many Requests"),
   (431, "Request Header Fields Too Large"), (451, "Unavailable For Legal Reasons"),
   (500, "Internal Server Error"), (501, "Not Implemented"), (502, "Bad Gateway"),
   (503, "Service Unavailable"), (504, "Gateway Timeout"), (505, "HTTP Version Not Supported"),
   (506, "Variant Also Negotiates"), (507, "Insufficient Storage"), (508, "Loop Detected"),
   (510, "Not Extended"), (511, "Network Authentication Required")]

/-- A status code with its reason. -/
def statusText (status : Nat) : String :=
  toString status ++ " " ++ (reasons.lookup status).getD "<unknown status code>"

/-- The name under which requests are made. -/
def userAgent : String := "ctxgen/0.1.0"

/-- A request follows this many redirections. -/
def redirectLimit : Nat := 5

/-- Whether a character may stand in the name of a header. -/
def isHeaderNameChar (c : Char) : Bool :=
  c.isAlphanum || "!#$%&'*+-.^_\x60|~".toList.contains c

/-- Whether a header can be sent. -/
def isHeader (h : String × String) : Bool :=
  h.1 != "" && h.1.toList.all isHeaderNameChar
    && h.2.toList.all fun c => (' ' ≤ c && c.toNat < 127) || c == '\t'

/-- The headers of a request: names in lower case, the usual ones where they are not given. -/
def fullHeaders (headers : List (String × String)) : List (String × String) :=
  let given := headers.map fun (k, v) => (Text.lowerAscii k, v)
  let usual := [("accept", "*/*"), ("user-agent", userAgent)]
  given ++ usual.filter fun (k, _) => !given.any (·.1 == k)

/-- A URL as it goes over the line: without the name and password of its user. -/
def lineUrl (url : Url) : Url :=
  { url with authority := url.authority.map fun a => { a with user := [], password := [] } }

/-- Whether a status code sends elsewhere. -/
def isRedirection (status : Nat) : Bool := [301, 302, 303, 307, 308].contains status

/-- The answer of the table for a URL as it goes over the line. -/
def tableAnswer (w : Web) (url : Url) : Answer :=
  (w.answers.get? url.requestText).getD ⟨404, [], []⟩

/-- Where an answer sends on from a URL. -/
def sentOn? (url : Url) (answer : Answer) : Option Url :=
  if isRedirection answer.status then
    (answer.header? "location").bind fun target => (url.join target).toOption
  else none

/-- The headers that go along to another URL: those that tell who asks stay with their host. -/
def headersFor (url next : Url) (headers : List (String × String)) : List (String × String) :=
  let sameHost := (next.authority.map Authority.host) == (url.authority.map Authority.host)
    && (next.authority.map Authority.port) == (url.authority.map Authority.port)
  headers.filter fun (k, _) =>
    sameHost || !(["authorization", "cookie", "proxy-authorization"].contains (Text.lowerAscii k))

/-- The wording of what went wrong with a URL. -/
def troubleWith (url : Url) (reason : String) : String :=
  reason ++ " for url (" ++ url.toString ++ ")"

/-- Asks for a URL and follows redirections; `hops` are those that may still be followed. The
failures are told without the URL that was wanted first. -/
def ask (w : Web) (headers : List (String × String)) (hops : Nat) (url : Url) :
    StateM Traffic (Except String Answer) :=
  let url := lineUrl url
  if url.schemeText != "http" && url.schemeText != "https" then
    pure (.error (troubleWith url "builder error"))
  else if !w.isUp || url.schemeText != "http" then
    pure (.error (troubleWith url "error sending request"))
  else do
    modify fun t => { t with requests := t.requests ++ [⟨url.requestText, fullHeaders headers⟩] }
    match sentOn? url (w.tableAnswer url), hops with
    | none, _ => pure (.ok (w.tableAnswer url))
    | some next, 0 => pure (.error (troubleWith next "error following redirect"))
    | some next, n + 1 => ask w (headersFor url next headers) n next

/-- The failure of a request for `what`. -/
def refused {α : Type} (what reason : String) : Fetching α :=
  Fetching.fail (.network (what ++ ": " ++ reason))

/-- The successful answer for a URL; `what` names it in failures. -/
def getUrl (w : Web) (u : Url) (what : String) (headers : List (String × String)) :
    Fetching Answer := do
  if u.authority.all fun a => a.host == .name [] then
    refused what ("builder error for url (" ++ u.toString ++ ")")
  else if !headers.all isHeader then refused what "builder error"
  else
    match ← (w.ask headers redirectLimit u : StateM Traffic (Except String Answer)) with
    | .error reason => refused what reason
    | .ok answer =>
      if answer.isSuccess then pure answer
      else refused what ("HTTP " ++ statusText answer.status)

/-- The successful answer for the text of a URL. -/
def get (w : Web) (url what : String) (headers : List (String × String)) : Fetching Answer :=
  match Url.read url with
  | .error _ => refused what "builder error"
  | .ok u => w.getUrl u what headers

end Web

end ContextCompiler
