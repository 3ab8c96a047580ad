import ContextCompiler.Html.Reference

/-!
The pieces of a page: tags, texts and comments.

Pieces are taken from the front of the text, one at a time. How the next piece is read depends
on the element that was opened last: some elements hold plain text up to their own end tag.
-/

namespace ContextCompiler.Html

/-- A piece of a page. -/
inductive Token where
  /-- Text without null characters. -/
  | text (s : List Char)
  /-- A null character. -/
  | null
  | open_ (name : String) (attrs : List (String × String)) (closesItself : Bool)
  | close (name : String)
  | comment (s : List Char)
  | doctype (isOldStyle : Bool)
  /-- The end of the page. -/
  | stop
  deriving Repr

/-- How a text is read. -/
inductive Reading where
  | markup
  /-- Text with references up to the end tag of the name. -/
  | escapable (name : String)
  /-- Text up to the end tag of the name. -/
  | raw (name : String)
  /-- The text of a script. -/
  | script
  | plain
  deriving Repr, DecidableEq

/-- Whether a character parts the parts of a tag. -/
def isTagBlank (c : Char) : Bool := c == ' ' || c == '\t' || c == '\n' || c == '\x0c' || c == '\r'

/-- A text with visible characters for its null characters. -/
def withoutNulls (s : List Char) : List Char := s.map fun c => if c == '\x00' then '\uFFFD' else c

/-- A name as it counts: in lower case and without null characters. -/
def lowered (s : List Char) : String := String.ofList ((withoutNulls s).map Char.toLower)

/-! ## Tags -/

/-- A value of an attribute, after its equals sign. -/
def readValue? (s : List Char) : Option (List Char × List Char) :=
  let quoted (q : Char) (s : List Char) : Option (List Char × List Char) :=
    match s.span (· != q) with
    | (value, _ :: rest) => some (resolve true (withoutNulls value), rest)
    | (_, []) => none
  match s.dropWhile isTagBlank with
  | '"' :: s => quoted '"' s
  | '\'' :: s => quoted '\'' s
  | s =>
    let (value, rest) := s.span fun c => !isTagBlank c && c != '>'
    some (resolve true (withoutNulls value), rest)

/-- The attributes of a tag, whether it closes itself, and what follows its end. Of attributes
of one name the first counts. `fuel` bounds the number of attributes. -/
def readAttributes? : Nat → List (String × String) → List Char →
    Option (List (String × String) × Bool × List Char)
  | 0, _, _ => none
  | fuel + 1, attrs, s =>
    match s.dropWhile isTagBlank with
    | [] => none
    | '>' :: rest => some (attrs.reverse, false, rest)
    | '/' :: '>' :: rest => some (attrs.reverse, true, rest)
    | '/' :: rest => readAttributes? fuel attrs rest
    | c :: s =>
      let (name, rest) := s.span fun c => !isTagBlank c && c != '/' && c != '>' && c != '='
      let name := lowered (c :: name)
      let add (value : List Char) : List (String × String) :=
        if attrs.any (·.1 == name) then attrs else (name, String.ofList value) :: attrs
      match rest.dropWhile isTagBlank with
      | '=' :: rest =>
        match readValue? rest with
        | some (value, rest) => readAttributes? fuel (add value) rest
        | none => none
      | rest => readAttributes? fuel (add []) rest

/-- Name and attributes of a tag. -/
def readTag? (s : List Char) : Option (String × List (String × String) × Bool × List Char) :=
  let (name, rest) := s.span fun c => !isTagBlank c && c != '/' && c != '>'
  (readAttributes? (s.length + 1) [] rest).map fun (attrs, own, rest) =>
    (lowered name, attrs, own, rest)

/-! ## Comments and document types -/

/-- The text of a comment and what follows it; `s` starts after the opening sign. -/
def readComment : List Char → List Char → List Char × List Char
  | acc, [] => (acc.reverse, [])
  | acc, '-' :: '-' :: '>' :: s => (acc.reverse, s)
  | acc, '-' :: '-' :: '!' :: '>' :: s => (acc.reverse, s)
  | acc, c :: s => readComment (c :: acc) s

/-- A comment up to the next end of a tag. -/
def readLooseComment (s : List Char) : Token × List Char :=
  let (text, rest) := s.span (· != '>')
  (.comment text, rest.drop 1)

/-- How the public names of old document types start. -/
def oldTypeStarts : List String :=
  ["-//ietf//dtd html", "-//w3c//dtd html 3", "-//w3c//dtd html 4.0 frameset//",
   "-//w3c//dtd html 4.0 transitional//", "-//w3c//dtd html experimental ", "-//w3c//dtd w3 html//",
   "-//w3o//dtd w3 html "]

/-- How the public names of document types start that are old unless a system name follows. -/
def looseTypeStarts : List String :=
  ["-//w3c//dtd html 4.01 frameset//", "-//w3c//dtd html 4.01 transitional//"]

/-- A name in quotes in a document type, and what follows it. Outer `none` stands for a name that
is not closed, inner `none` for no name. -/
def readTypeName? (s : List Char) : Option (Option (List Char) × List Char) :=
  let quoted (q : Char) (s : List Char) : Option (Option (List Char) × List Char) :=
    match s.span (· != q) with
    | (name, _ :: rest) => some (some (name.map Char.toLower), rest)
    | (_, []) => none
  match s.dropWhile isTagBlank with
  | '"' :: s => quoted '"' s
  | '\'' :: s => quoted '\'' s
  | s => some (none, s)

/-- Whether a document type, given by its text, stands for the style of old pages. -/
def isOldStyleType (s : List Char) : Bool :=
  let (name, rest) := (s.dropWhile isTagBlank).span (!isTagBlank ·)
  let rest := rest.dropWhile isTagBlank
  let key := lowered (rest.take 6)
  if lowered name != "html" then true
  else if rest.isEmpty then false
  else if key == "public" then
    match readTypeName? (rest.drop 6) with
    | some (some public_, rest) =>
      let starts (k : String) : Bool := k.toList.isPrefixOf public_
      match readTypeName? rest with
      | none => true
      | some (system, rest) =>
        (system.isNone && !(rest.dropWhile isTagBlank).isEmpty)
          || public_ == "html".toList || public_ == "-/w3c/dtd html 4.0 transitional/en".toList
          || oldTypeStarts.any starts || (system.isNone && looseTypeStarts.any starts)
    | _ => true
  else if key == "system" then
    match readTypeName? (rest.drop 6) with
    | some (some _, _) => false
    | _ => true
  else true

/-- What follows `<!`. -/
def readDeclaration (inForeign : Bool) (s : List Char) : Token × List Char :=
  match s with
  | '-' :: '-' :: '>' :: s => (.comment [], s)
  | '-' :: '-' :: '-' :: '>' :: s => (.comment [], s)
  | '-' :: '-' :: s =>
    let (text, rest) := readComment [] s
    (.comment text, rest)
  | s =>
    if lowered (s.take 7) == "doctype" then
      let (body, rest) := (s.drop 7).span (· != '>')
      (.doctype (rest.isEmpty || isOldStyleType body), rest.drop 1)
    else if inForeign && "[CDATA[".toList.isPrefixOf s then
      match Text.splitFirst "]]>".toList (s.drop 7) with
      | some (text, rest) => (.text (withoutNulls text), rest)
      | none => (.text (withoutNulls (s.drop 7)), [])
    else readLooseComment s

/-! ## Markup and texts -/

/-- A piece of markup at the start of a text. An unfinished tag ends the page. -/
def readMarkup (inForeign : Bool) (s : List Char) : Token × List Char :=
  match s with
  | '<' :: '!' :: s => readDeclaration inForeign s
  | '<' :: '/' :: '>' :: s => (.text [], s)
  | '<' :: '/' :: c :: s =>
    if c.isAlpha then
      match readTag? (c :: s) with
      | some (name, _, _, rest) => (.close name, rest)
      | none => (.text [], [])
    else readLooseComment (c :: s)
  | '<' :: '?' :: s => readLooseComment ('?' :: s)
  | '<' :: c :: s =>
    if c.isAlpha then
      match readTag? (c :: s) with
      | some (name, attrs, own, rest) => (.open_ name attrs own, rest)
      | none => (.text [], [])
    else (.text ['<'], c :: s)
  | '\x00' :: s => (.null, s)
  | c :: s =>
    let (text, rest) := s.span fun c => c != '<' && c != '\x00'
    (.text (resolve false (c :: text)), rest)
  | [] => (.text [], [])

/-- Whether a tag of a name starts a text that follows `<` or `</`. -/
def nameStarts (name : List Char) (s : List Char) : Bool :=
  (s.take name.length).map Char.toLower == name
    && (s.drop name.length).head?.any fun c => isTagBlank c || c == '/' || c == '>'

/-- Whether the end tag of a name starts a text. -/
def endTagStarts (name : List Char) (s : List Char) : Bool :=
  match s with
  | '<' :: '/' :: s => nameStarts name s
  | _ => false

/-- The text before the end tag of a name, and what starts with that tag. -/
def readRaw (name : List Char) : List Char → List Char → List Char × List Char
  | acc, [] => (acc.reverse, [])
  | acc, c :: s =>
    if c == '<' && endTagStarts name (c :: s) then (acc.reverse, c :: s)
    else readRaw name (c :: acc) s

/-- Where in a script its text is read: outside of comments, in a comment, or in a script within a
comment. Only outside of inner scripts an end tag ends the script. -/
inductive ScriptPlace where
  | outside
  | inComment
  | inInnerScript
  deriving DecidableEq, Repr

/-- The text of a script before its end tag, and what starts with that tag. `dashes` counts the
dashes right before, in comments. -/
def readScript (place : ScriptPlace) (dashes : Nat) (acc : List Char) :
    List Char → List Char × List Char
  | [] => (acc.reverse, [])
  | c :: s =>
    let name := "script".toList
    match place, c with
    | .outside, '<' =>
      if endTagStarts name (c :: s) then (acc.reverse, c :: s)
      else if "!--".toList.isPrefixOf s then readScript .inComment 0 (c :: acc) s
      else readScript .outside 0 (c :: acc) s
    | .inComment, '<' =>
      if endTagStarts name (c :: s) then (acc.reverse, c :: s)
      else if nameStarts name s then readScript .inInnerScript 0 (c :: acc) s
      else readScript .inComment 0 (c :: acc) s
    | .inInnerScript, '<' =>
      let place := if endTagStarts name (c :: s) then .inComment else .inInnerScript
      readScript place 0 (c :: acc) s
    | .outside, _ => readScript .outside 0 (c :: acc) s
    | place, '-' => readScript place (dashes + 1) (c :: acc) s
    | place, '>' => readScript (if 2 ≤ dashes then .outside else place) 0 (c :: acc) s
    | place, _ => readScript place 0 (c :: acc) s

/-- The next piece of a text that is not empty, and what follows it. -/
def readToken (how : Reading) (inForeign : Bool) (s : List Char) : Token × List Char :=
  match how with
  | .markup => readMarkup inForeign s
  | .plain => (.text (withoutNulls s), [])
  | .raw name =>
    let name := name.toList
    if endTagStarts name s then readMarkup inForeign s
    else
      let (text, rest) := readRaw name [] s
      (.text (withoutNulls text), rest)
  | .script =>
    match readScript .outside 0 [] s with
    | ([], rest) => readMarkup inForeign rest
    | (text, rest) => (.text (withoutNulls text), rest)
  | .escapable name =>
    let name := name.toList
    if endTagStarts name s then readMarkup inForeign s
    else
      let (text, rest) := readRaw name [] s
      (.text (resolve false (withoutNulls text)), rest)

/-- The text with one sign for all line ends, and without a mark of the byte order. -/
def normalized (s : List Char) : List Char :=
  let s :=
    match s with
    | '\uFEFF' :: s => s
    | s => s
  (Text.replaceAll ['\r', '\n'] ['\n'] s).map fun c => if c == '\r' then '\n' else c

end ContextCompiler.Html
