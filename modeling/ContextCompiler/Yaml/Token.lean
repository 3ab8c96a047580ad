import ContextCompiler.Decode.Node
import ContextCompiler.Text.Utf8
import ContextCompiler.Yaml.Cursor

/-!
Tokens of texts in YAML.

The scanner keeps the columns of the open block collections. Every place where a key could
start gets a mark; a colon on the same line makes it a key, and the marks that no colon came
for are dropped from the list of tokens in the end.
-/

namespace ContextCompiler.Yaml

/-- A token. -/
inductive Token where
  /-- The version that a text is written for. -/
  | version (major minor : Nat)
  /-- A short form for the starts of tags. -/
  | tagHandle (handle start : List Char)
  | documentStart
  | documentEnd
  | blockSequenceStart
  | blockMappingStart
  | blockEnd
  | flowSequenceStart
  | flowSequenceEnd
  | flowMappingStart
  | flowMappingEnd
  | blockEntry
  | flowEntry
  | key
  | value
  | anchor (name : List Char)
  | alias (name : List Char)
  | tag (handle suffix : List Char)
  | scalar (text : List Char) (style : ScalarStyle)
  /-- A place where a key could start. -/
  | mark (id : Nat)
  deriving DecidableEq, Repr

/-- A place where a key could start, while it is not decided whether one does. -/
structure KeyMark where
  id : Nat
  /-- Whether nothing but a key may stand there. -/
  required : Bool
  line : Nat
  column : Nat
  index : Nat
  deriving Repr

/-- What the scanner knows between two tokens. -/
structure Scanner where
  cursor : Cursor
  /-- The columns of the open block collections, innermost first; none is `-1`. -/
  indents : List Int
  /-- The mark at each level of flow collections, innermost first. -/
  marks : List (Option KeyMark)
  keyAllowed : Bool
  /-- The tokens so far, last first. -/
  tokens : List Token
  /-- The marks that became keys, and whether a mapping starts there. -/
  keys : List (Nat × Bool)
  nextMark : Nat

/-- The result of a step that may find the text malformed. -/
abbrev Scan (α : Type) := Except Unit α

namespace Scanner

/-- The scanner at the start of a text. -/
def start (s : List Char) : Scanner := ⟨.start s, [], [none], true, [], [], 0⟩

/-- The depth of flow collections. -/
def flowLevel (s : Scanner) : Nat := s.marks.length - 1

/-- Whether the place is inside a flow collection. -/
def inFlow (s : Scanner) : Bool := s.flowLevel != 0

/-- The column of the innermost block collection. -/
def indent (s : Scanner) : Int := s.indents.headD (-1)

/-- Adds a token. -/
def emit (t : Token) (s : Scanner) : Scanner := { s with tokens := t :: s.tokens }

/-- Closes the block collections that start right of a column. -/
def unrollIndent (column : Int) (s : Scanner) : Scanner :=
  if s.inFlow then s
  else
    let closed := s.indents.takeWhile (fun i => decide (column < i))
    { s with
      indents := s.indents.drop closed.length
      tokens := List.replicate closed.length .blockEnd ++ s.tokens }

/-- Whether a block collection at a column opens a new level. -/
def opensLevel (column : Int) (s : Scanner) : Bool := !s.inFlow && s.indent < column

/-- Opens a block collection at a column where that is a new level. -/
def rollIndent (column : Int) (t : Token) (s : Scanner) : Scanner :=
  if s.opensLevel column then { s with indents := column :: s.indents, tokens := t :: s.tokens }
  else s

/-- Gives up the mark of the innermost level. -/
def dropMark (s : Scanner) : Scan Scanner :=
  match s.marks with
  | some m :: rest => if m.required then throw () else pure { s with marks := none :: rest }
  | _ => pure s

/-- Marks the place as one where a key could start. -/
def saveMark (s : Scanner) : Scan Scanner := do
  if !s.keyAllowed then return s
  let required := !s.inFlow && s.indent == s.cursor.column
  let s ← s.dropMark
  let m : KeyMark := ⟨s.nextMark, required, s.cursor.line, s.cursor.column, s.cursor.index⟩
  pure { s with
    marks := some m :: s.marks.tail
    tokens := .mark m.id :: s.tokens
    nextMark := s.nextMark + 1 }

/-- Gives up marks on earlier lines and marks that are too far away. -/
def dropStaleMarks (s : Scanner) : Scan Scanner := do
  let marks ← s.marks.mapM fun m =>
    match m with
    | none => pure none
    | some m =>
      if m.line < s.cursor.line || m.index + 1024 < s.cursor.index then
        if m.required then throw () else pure none
      else pure (some m)
  pure { s with marks := marks }

/-- Passes over blanks, comments and line breaks. The number bounds the lines. -/
def skipGap : Nat → Scanner → Scanner
  | 0, s => s
  | n + 1, s =>
    let c := s.cursor
    let c := if c.index == 0 && c.peek == some '\uFEFF' then c.skip else c
    let passes (d : Char) : Bool := d == ' ' || ((s.inFlow || !s.keyAllowed) && d == '\t')
    let c := c.skipWhile passes c.rest.length
    let c := if c.peek == some '#' then c.skipWhile (fun d => !isBreak d) c.rest.length else c
    if c.atBreak then
      skipGap n
        { s with cursor := c.skipBreak.1, keyAllowed := if s.inFlow then s.keyAllowed else true }
    else { s with cursor := c }

/-- Characters of anchors and tag handles. -/
def isNameChar (c : Char) : Bool := c.isAlphanum || c == '_' || c == '-'

/-- Characters of tags. -/
def isTagChar (c : Char) : Bool := isNameChar c || ";/?:@&=+$.!~*'()%".toList.contains c

/-- Scans an anchor or alias after its sign. -/
def scanName (make : List Char → Token) (s : Scanner) : Scan Scanner := do
  let (name, c) := s.cursor.skip.takeWhile isNameChar
  let ends := c.blankAt 0 || c.peek.any ("?:,]\x7d%@\x60".toList.contains ·)
  if name.isEmpty || !ends then throw ()
  pure { s.emit (make name) with cursor := c }

/-- Whether every percent sign stands before two digits. -/
def escapesWhole : List Char → Bool
  | [] => true
  | '%' :: a :: b :: s =>
    (Text.hexDigit? a).isSome && (Text.hexDigit? b).isSome && escapesWhole s
  | '%' :: _ => false
  | _ :: s => escapesWhole s

/-- The text of a tag, of which some bytes may be written as percent signs and digits. -/
def tagText (s : List Char) : Scan (List Char) :=
  match if escapesWhole s then Text.ofUtf8? (Text.percentDecode s) else none with
  | some t => pure t
  | none => throw ()

/-- Scans a tag, or the start of one, that is written in full. -/
def scanFullTag (c : Cursor) : Scan (List Char × Cursor) := do
  let (uri, c) := c.takeWhile fun d => isTagChar d || ",[]".toList.contains d
  if uri.isEmpty then throw ()
  pure (← tagText uri, c)

/-- Scans a tag. -/
def scanTag (s : Scanner) : Scan Scanner := do
  let c := s.cursor
  let (t, c) ← (do
    if c.rest[1]? == some '<' then
      let (tag, c) ← scanFullTag (c.skipMany 2)
      if c.peek != some '>' then throw ()
      pure (Token.tag [] tag, c.skip)
    else
      let (name, c) := c.skip.takeWhile isNameChar
      if c.peek == some '!' then
        let (suffix, c) := c.skip.takeWhile isTagChar
        if suffix.isEmpty then throw ()
        pure (Token.tag ('!' :: name ++ ['!']) (← tagText suffix), c)
      else
        let (more, c) := c.takeWhile isTagChar
        let suffix ← tagText (name ++ more)
        pure (if suffix.isEmpty then Token.tag [] ['!'] else Token.tag ['!'] suffix, c)
    : Scan (Token × Cursor))
  if !(c.blankAt 0 || (s.inFlow && c.peek == some ',')) then throw ()
  pure { s.emit t with cursor := c }

/-- The value of digits of a base. -/
def hexNumber? (cs : List Char) : Option Nat :=
  cs.foldlM (fun n c =>
    if '0' ≤ c && c ≤ '9' then some (n * 16 + (c.toNat - '0'.toNat))
    else if 'a' ≤ c && c ≤ 'f' then some (n * 16 + (c.toNat - 'a'.toNat + 10))
    else if 'A' ≤ c && c ≤ 'F' then some (n * 16 + (c.toNat - 'A'.toNat + 10))
    else none) 0

/-- The character of a one-letter escape. -/
def escapeChar? (c : Char) : Option Char :=
  match c with
  | '0' => some '\x00'
  | 'a' => some '\x07'
  | 'b' => some '\x08'
  | 't' => some '\t'
  | '\t' => some '\t'
  | 'n' => some '\n'
  | 'v' => some '\x0b'
  | 'f' => some '\x0c'
  | 'r' => some '\r'
  | 'e' => some '\x1b'
  | ' ' => some ' '
  | '"' => some '"'
  | '/' => some '/'
  | '\'' => some '\''
  | '\\' => some '\\'
  | 'N' => some '\u0085'
  | '_' => some '\u00a0'
  | 'L' => some '\u2028'
  | 'P' => some '\u2029'
  | _ => none

/-- The number of digits of a numeric escape. -/
def escapeDigits? (c : Char) : Option Nat :=
  match c with
  | 'x' => some 2
  | 'u' => some 4
  | 'U' => some 8
  | _ => none

/-- What separates two parts of a scalar: blanks, or line breaks to be folded. -/
inductive Gap where
  | none
  | spaces (cs : List Char)
  | breaks (first more : List Char)

/-- The text that a gap stands for: one line break becomes a space, and more than one lose the
first. -/
def Gap.text : Gap → List Char
  | .none => []
  | .spaces cs => cs
  | .breaks ['\n'] [] => [' ']
  | .breaks ['\n'] more => more
  | .breaks first more => first ++ more

/-- Collects the blanks and line breaks from a place on. With `indent`, a tab that stands where
indentation should be is refused. -/
def scanGap (indent : Option Int) : Nat → Gap → Cursor → Scan (Gap × Cursor)
  | 0, g, c => pure (g, c)
  | n + 1, g, c =>
    match c.peek with
    | none => pure (g, c)
    | some d =>
      if isSpace d then
        match g with
        | .breaks a b =>
          if d == '\t' && indent.any (fun i => decide ((c.column : Int) < i)) then throw ()
          else scanGap indent n (.breaks a b) c.skip
        | .spaces cs => scanGap indent n (.spaces (cs ++ [d])) c.skip
        | .none => scanGap indent n (.spaces [d]) c.skip
      else if isBreak d then
        let (c, b) := c.skipBreak
        match g with
        | .breaks first more => scanGap indent n (.breaks first (more ++ b)) c
        | _ => scanGap indent n (.breaks b []) c
      else pure (g, c)

/-- Scans the rest of a quoted scalar; `out` holds its characters so far, last first. -/
def scanQuoted (single : Bool) : Nat → List Char → Cursor → Scan (List Char × Cursor)
  | 0, _, _ => throw ()
  | n + 1, out, c =>
    if c.atMarker then throw ()
    else
      match c.rest with
      | [] => throw ()
      | d :: rest =>
        if single && d == '\'' then
          if rest.head? == some '\'' then scanQuoted single n ('\'' :: out) (c.skipMany 2)
          else pure (out.reverse, c.skip)
        else if !single && d == '"' then pure (out.reverse, c.skip)
        else if !single && d == '\\' then
          match rest with
          | [] => throw ()
          | e :: digits =>
            if isBreak e then do
              let (c, _) := c.skip.skipBreak
              let (g, c) ← scanGap none c.rest.length (.breaks [] []) c
              scanQuoted single n (g.text.reverse ++ out) c
            else
              match escapeChar? e, escapeDigits? e with
              | some v, _ => scanQuoted single n (v :: out) (c.skipMany 2)
              | none, some k =>
                let ds := digits.take k
                match hexNumber? ds with
                | some v =>
                  if ds.length != k || (0xD800 ≤ v && v ≤ 0xDFFF) || 0x10FFFF < v then throw ()
                  else scanQuoted single n (Char.ofNat v :: out) (c.skipMany (k + 2))
                | none => throw ()
              | none, none => throw ()
        else if isSpace d || isBreak d then do
          let (g, c) ← scanGap none c.rest.length .none c
          scanQuoted single n (g.text.reverse ++ out) c
        else scanQuoted single n (d :: out) c.skip

/-- Characters that end a plain scalar inside flow collections. -/
def isFlowSign (c : Char) : Bool := ",[]\x7b\x7d".toList.contains c

/-- Scans a plain scalar; `gap` stands before the next character. The result tells whether a
line break follows the scalar. -/
def scanPlain (s : Scanner) :
    Nat → List Char → Gap → Cursor → Scan (List Char × Bool × Cursor)
  | 0, _, _, _ => throw ()
  | n + 1, out, gap, c =>
    let broke := match gap with
      | .breaks _ _ => true
      | _ => false
    let starts := match gap with
      | .none => false
      | _ => true
    let ended := pure (out.reverse, broke, c)
    if (starts || out.isEmpty) && (c.atMarker || c.peek == some '#') then ended
    else if broke && !s.inFlow && (c.column : Int) < s.indent + 1 then ended
    else
      match c.peek with
      | none => ended
      | some d =>
        if isSpace d || isBreak d then do
          let (g, c) ← scanGap (some (s.indent + 1)) c.rest.length .none c
          scanPlain s n out g c
        else if s.inFlow && d == ':' && c.rest[1]?.any (fun e => isFlowSign e || e == '?') then
          throw ()
        else if (d == ':' && c.blankAt 1) || (s.inFlow && isFlowSign d) then ended
        else scanPlain s n (d :: (gap.text.reverse ++ out)) .none c.skip

/-- Passes over the indentation and the empty lines before the next line of a block scalar. The
result holds the breaks and the largest column seen. -/
def scanBlockGap (indent : Nat) :
    Nat → Nat → List Char → Cursor → Scan (Nat × List Char × Cursor)
  | 0, deepest, breaks, c => pure (deepest, breaks, c)
  | n + 1, deepest, breaks, c =>
    let c :=
      if indent == 0 then c.skipWhile (· == ' ') c.rest.length
      else c.skipWhile (· == ' ') (indent - c.column)
    let deepest := max deepest c.column
    if (indent == 0 || c.column < indent) && c.peek == some '\t' then throw ()
    else if c.atBreak then
      let (c, b) := c.skipBreak
      scanBlockGap indent n deepest (breaks ++ b) c
    else pure (deepest, breaks, c)

/-- Scans the lines of a block scalar. `out` holds the text so far, `lead` the break that ended
the last line, `trail` the empty lines after it. -/
def scanBlockLines (literal : Bool) (indent : Nat) :
    Nat → List Char → Bool → List Char → List Char → Cursor →
      Scan (List Char × List Char × List Char × Cursor)
  | 0, out, _, lead, trail, c => pure (out, lead, trail, c)
  | n + 1, out, leadBlank, lead, trail, c =>
    if c.column == indent && !c.atEnd then do
      let blank := c.peek.any isSpace
      let joint :=
        if !literal && lead.head? == some '\n' && !leadBlank && !blank then
          if trail.isEmpty then [' '] else []
        else lead
      let (line, c) := c.takeWhile fun d => !isBreak d
      let (c, lead) := c.skipBreak
      let (_, trail', c) ← scanBlockGap indent c.rest.length 0 [] c
      scanBlockLines literal indent n (out ++ joint ++ trail ++ line) blank lead trail' c
    else pure (out, lead, trail, c)

/-- The signs after the indicator of a block scalar: how to treat its end, and the indentation. -/
def blockHeader (c : Cursor) : Scan (Option Bool × Nat × Cursor) := do
  let digit (c : Cursor) : Scan (Nat × Cursor) :=
    match c.peek with
    | some d =>
      if d.isDigit then
        if d == '0' then throw () else pure (d.toNat - '0'.toNat, c.skip)
      else pure (0, c)
    | none => pure (0, c)
  let chomp (c : Cursor) : Option Bool × Cursor :=
    match c.peek with
    | some '+' => (some true, c.skip)
    | some '-' => (some false, c.skip)
    | _ => (none, c)
  match chomp c with
  | (some b, c) =>
    let (k, c) ← digit c
    pure (some b, k, c)
  | (none, c) =>
    let (k, c) ← digit c
    if k == 0 then pure (none, 0, c)
    else
      let (b, c) := chomp c
      pure (b, k, c)

/-- Scans a block scalar after its indicator. -/
def scanBlock (literal : Bool) (s : Scanner) : Scan Scanner := do
  let (chomp, k, c) ← blockHeader s.cursor.skip
  let c := c.skipWhile isSpace c.rest.length
  let c := if c.peek == some '#' then c.skipWhile (fun d => !isBreak d) c.rest.length else c
  if !c.atLineEnd then throw ()
  let c := c.skipBreak.1
  let outer := s.indent
  let fixed : Nat := if k == 0 then 0 else if 0 ≤ outer then outer.toNat + k else k
  let (deepest, trail, c) ← scanBlockGap fixed (c.rest.length + 1) 0 [] c
  let indent := if fixed == 0 then max (max deepest (outer + 1).toNat) 1 else fixed
  let (out, lead, trail, c) ←
    scanBlockLines literal indent (c.rest.length + 1) [] false [] trail c
  let text := match chomp with
    | some false => out
    | none => out ++ lead
    | some true => out ++ lead ++ trail
  pure { s.emit (.scalar text (if literal then .literal else .folded)) with cursor := c }

/-- Scans a number of a version. -/
def scanNumber (c : Cursor) : Scan (Nat × Cursor) :=
  let (ds, c) := c.takeWhile Char.isDigit
  if ds.isEmpty || 9 < ds.length then throw ()
  else pure (ds.foldl (fun n d => n * 10 + (d.toNat - '0'.toNat)) 0, c)

/-- Scans a version. -/
def scanVersion (c : Cursor) : Scan (Token × Cursor) := do
  let (major, c) ← scanNumber c
  if c.peek != some '.' then throw ()
  let (minor, c) ← scanNumber c.skip
  pure (.version major minor, c)

/-- Scans a handle, which is an exclamation mark alone or two around a name, and the start that it
stands for. -/
def scanTagHandle (c : Cursor) : Scan (Token × Cursor) := do
  if c.peek != some '!' then throw ()
  let (name, c) := c.skip.takeWhile isNameChar
  let (handle, c) ← (do
    if c.peek == some '!' then pure ('!' :: name ++ ['!'], c.skip)
    else if name.isEmpty then pure (['!'], c)
    else throw ()
    : Scan (List Char × Cursor))
  if !c.peek.any isSpace then throw ()
  let (start, c) ← scanFullTag (c.skipWhile isSpace c.rest.length)
  if !c.blankAt 0 then throw ()
  pure (.tagHandle handle start, c)

/-- Scans a directive, which takes the whole line. -/
def scanDirective (s : Scanner) : Scan Scanner := do
  let s := s.unrollIndent (-1)
  let s ← s.dropMark
  let (name, c) := s.cursor.skip.takeWhile isNameChar
  if !c.blankAt 0 then throw ()
  let c := c.skipWhile isSpace c.rest.length
  let (t, c) ← (
    if name == "YAML".toList then scanVersion c
    else if name == "TAG".toList then scanTagHandle c
    else throw ())
  let c := c.skipWhile isSpace c.rest.length
  let c := if c.peek == some '#' then c.skipWhile (fun d => !isBreak d) c.rest.length else c
  if !c.atLineEnd then throw ()
  pure { s.emit t with cursor := c.skipBreak.1, keyAllowed := false }

/-- Scans the sign of a block entry. -/
def scanBlockEntry (s : Scanner) : Scan Scanner := do
  if !s.inFlow && !s.keyAllowed then throw ()
  let s := s.rollIndent s.cursor.column .blockSequenceStart
  let s ← s.dropMark
  pure { s.emit .blockEntry with keyAllowed := true, cursor := s.cursor.skip }

/-- Scans the sign of a key. -/
def scanKey (s : Scanner) : Scan Scanner := do
  if !s.inFlow && !s.keyAllowed then throw ()
  let s := s.rollIndent s.cursor.column .blockMappingStart
  let s ← s.dropMark
  pure { s.emit .key with keyAllowed := !s.inFlow, cursor := s.cursor.skip }

/-- Scans the sign of a value. A mark of the level becomes a key. -/
def scanValue (s : Scanner) : Scan Scanner := do
  match s.marks with
  | some m :: rest =>
    let opens := s.opensLevel m.column
    let s := { s with
      keys := (m.id, opens) :: s.keys
      marks := none :: rest
      indents := if opens then (m.column : Int) :: s.indents else s.indents }
    pure { s.emit .value with keyAllowed := false, cursor := s.cursor.skip }
  | _ =>
    if !s.inFlow && !s.keyAllowed then throw ()
    let s := s.rollIndent s.cursor.column .blockMappingStart
    pure { s.emit .value with keyAllowed := !s.inFlow, cursor := s.cursor.skip }

/-- Scans the start of a flow collection. -/
def scanFlowStart (t : Token) (s : Scanner) : Scan Scanner := do
  let s ← s.saveMark
  pure { s.emit t with marks := none :: s.marks, keyAllowed := true, cursor := s.cursor.skip }

/-- Scans the end of a flow collection. -/
def scanFlowEnd (t : Token) (s : Scanner) : Scan Scanner := do
  let s ← s.dropMark
  let marks := if s.inFlow then s.marks.tail else s.marks
  pure { s.emit t with marks := marks, keyAllowed := false, cursor := s.cursor.skip }

/-- Whether a plain scalar can start at the place. -/
def startsPlain (s : Scanner) : Bool :=
  let c := s.cursor
  match c.peek with
  | none => false
  | some d =>
    !(c.blankAt 0 || "-?:,[]\x7b\x7d#&*!|>'\"%@\x60".toList.contains d)
      || (d == '-' && !c.rest[1]?.any isSpace)
      || (!s.inFlow && (d == '?' || d == ':') && !c.blankAt 1)

/-- Scans what stands at the place, which is not a gap and not the end. -/
def scanToken (s : Scanner) : Scan Scanner := do
  let c := s.cursor
  match c.peek with
  | none => throw ()
  | some d =>
    if c.column == 0 && d == '%' then s.scanDirective
    else if c.atMarker then
      let s := s.unrollIndent (-1)
      let s ← s.dropMark
      pure { s.emit (if d == '-' then .documentStart else .documentEnd) with
        keyAllowed := false, cursor := s.cursor.skipMany 3 }
    else if d == '[' then s.scanFlowStart .flowSequenceStart
    else if d == '\x7b' then s.scanFlowStart .flowMappingStart
    else if d == ']' then s.scanFlowEnd .flowSequenceEnd
    else if d == '\x7d' then s.scanFlowEnd .flowMappingEnd
    else if d == ',' then
      let s ← s.dropMark
      pure { s.emit .flowEntry with keyAllowed := true, cursor := s.cursor.skip }
    else if d == '-' && c.blankAt 1 then s.scanBlockEntry
    else if d == '?' && (s.inFlow || c.blankAt 1) then s.scanKey
    else if d == ':' && (s.inFlow || c.blankAt 1) then s.scanValue
    else if d == '*' then
      let s ← s.saveMark
      scanName .alias { s with keyAllowed := false }
    else if d == '&' then
      let s ← s.saveMark
      scanName .anchor { s with keyAllowed := false }
    else if d == '!' then
      let s ← s.saveMark
      scanTag { s with keyAllowed := false }
    else if (d == '|' || d == '>') && !s.inFlow then
      let s ← s.dropMark
      scanBlock (d == '|') { s with keyAllowed := true }
    else if d == '\'' || d == '"' then
      let s ← s.saveMark
      let (text, c) ← scanQuoted (d == '\'') (c.rest.length + 1) [] c.skip
      pure { s.emit (.scalar text .quoted) with keyAllowed := false, cursor := c }
    else if s.startsPlain then
      let s ← s.saveMark
      let (text, broke, c) ← scanPlain s (2 * c.rest.length + 2) [] .none c
      pure { s.emit (.scalar text .plain) with keyAllowed := broke, cursor := c }
    else throw ()

/-- Scans the whole text. The number bounds the tokens. -/
def scanAll : Nat → Scanner → Scan Scanner
  | 0, _ => throw ()
  | n + 1, s => do
    let s := s.skipGap (s.cursor.rest.length + 1)
    let s ← s.dropStaleMarks
    let s := s.unrollIndent s.cursor.column
    if s.cursor.atEnd then
      let s := s.unrollIndent (-1)
      s.dropMark
    else
      let s ← s.scanToken
      scanAll n s

end Scanner

/-- The tokens that a list of tokens with marks stands for. -/
def resolveMarks (keys : List (Nat × Bool)) (tokens : List Token) : List Token :=
  tokens.flatMap fun t =>
    match t with
    | .mark id =>
      match keys.lookup id with
      | some true => [.blockMappingStart, .key]
      | some false => [.key]
      | none => []
    | t => [t]

/-- Characters that may stand in a text. -/
def isAllowed (c : Char) : Bool :=
  let n := c.toNat
  n == 9 || n == 10 || n == 13 || (0x20 ≤ n && n ≤ 0x7E) || n == 0x85 || (0xA0 ≤ n && n ≤ 0xD7FF)
    || (0xE000 ≤ n && n ≤ 0xFFFD) || 0x10000 ≤ n

/-- The tokens of a text; none when it is malformed. -/
def tokens? (text : String) : Option (List Token) :=
  let cs := text.toList
  if !cs.all isAllowed then none
  else
    match (Scanner.start cs).scanAll (cs.length + 2) with
    | .ok s => some (resolveMarks s.keys s.tokens.reverse)
    | .error _ => none

end ContextCompiler.Yaml
