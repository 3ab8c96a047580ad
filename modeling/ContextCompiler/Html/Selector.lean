import ContextCompiler.Html.Tree
import ContextCompiler.Text.Utf8

/-!
Selectors: which elements of a page are meant.

An element is judged at its level: with the elements around it and the levels above. A selector
of several parts is judged from its last part on, and the earlier parts are looked for among
the levels above or the elements before.
-/

namespace ContextCompiler.Html

/-- An element with the sibling elements before it, nearest first, and those after it. -/
structure Level where
  self : Dom
  before : List Dom
  after : List Dom

/-- How two parts of a selector hang together. -/
inductive Combinator where
  | descendant
  | child
  | next
  | later
  deriving DecidableEq, Repr

/-- How the value of an attribute is compared. -/
inductive ValueTest where
  | present
  | equal
  | word
  | dashed
  | start
  | stop
  | part
  deriving DecidableEq, Repr

/-- A selector. -/
inductive Selector where
  | any
  | none
  | tag (name : String)
  | attr (name : String) (test : ValueTest) (value : List Char) (anyCase : Bool)
  | root
  | vacant
  /-- Every `step`-th element from `offset` on, counted from the start or the end, among all
  siblings or among those of its name. -/
  | nth (fromEnd ofName : Bool) (step offset : Int)
  | both (a b : Selector)
  | either (a b : Selector)
  | not (a : Selector)
  | after (a : Selector) (how : Combinator) (b : Selector)
  | has (how : Combinator) (a : Selector)
  deriving Repr

namespace Level

/-- The levels of the elements among some parts. -/
def split (before : List Dom) : List Dom → List Level
  | [] => []
  | d :: rest =>
    if d.isElement then ⟨d, before, rest.filter Dom.isElement⟩ :: split (d :: before) rest
    else split before rest

/-- The levels that a combinator leads to, to the left of a selector. -/
def reached (how : Combinator) (levels : List Level) : List (List Level) :=
  match levels with
  | [] => []
  | here :: above =>
    let all := split [] (here.before.reverse ++ here.self :: here.after)
    let siblings := all.take here.before.length
    match how with
    | .child => if above.isEmpty then [] else [above]
    | .descendant => (List.range above.length).map fun i => above.drop i
    | .next => (siblings.getLast?.map fun l => l :: above).toList
    | .later => siblings.map fun l => l :: above

/-- Every element below some levels, with its own levels. `fuel` bounds the depth. -/
def descendants : Nat → List Level → List (List Level)
  | 0, _ => []
  | fuel + 1, levels =>
    match levels with
    | [] => []
    | here :: _ =>
      (split [] here.self.children).flatMap fun l =>
        let below := l :: levels
        below :: descendants fuel below

end Level

mutual

/-- The number of parts on the longest way down. -/
def Dom.depth : Dom → Nat
  | .text _ => 1
  | .comment _ => 1
  | .element _ _ _ children => Dom.depths children + 1

/-- The largest depth of some parts. -/
def Dom.depths : List Dom → Nat
  | [] => 0
  | d :: rest => Nat.max (Dom.depth d) (Dom.depths rest)

end

namespace Level

/-- The levels that a combinator leads to, to the right of an element. -/
def ahead (how : Combinator) (levels : List Level) : List (List Level) :=
  match levels with
  | [] => []
  | here :: above =>
    let all := split [] (here.before.reverse ++ here.self :: here.after)
    let siblings := all.drop (here.before.length + 1)
    match how with
    | .child => (split [] here.self.children).map fun l => l :: levels
    | .descendant => descendants here.self.depth levels
    | .next => (siblings.head?.map fun l => l :: above).toList
    | .later => siblings.map fun l => l :: above

end Level

namespace Selector

/-- Whether a text starts or ends with another, or holds it. -/
def testValue (test : ValueTest) (want have_ : List Char) : Bool :=
  match test with
  | .present => true
  | .equal => want == have_
  | .word => !want.isEmpty && !want.any isTagBlank
      && ((have_.map fun c => if isTagBlank c then ' ' else c) |> Text.splitOn ' ').contains want
  | .dashed => want == have_ || (want ++ ['-']).isPrefixOf have_
  | .start => !want.isEmpty && want.isPrefixOf have_
  | .stop => !want.isEmpty && want.isSuffixOf have_
  | .part => !want.isEmpty && Text.occursIn want have_

/-- Whether `n` is `step * k + offset` for a number `k` of steps. -/
def isNth (step offset n : Int) : Bool :=
  let d := n - offset
  if step == 0 then d == 0 else d % step == 0 && 0 ≤ d / step

/-- Whether an element counts as holding nothing. -/
def isVacant (d : Dom) : Bool :=
  d.children.all fun c =>
    match c with
    | .text s => s.isEmpty
    | .comment _ => true
    | .element .. => false

/-- Whether a selector means the element at the innermost level. -/
def selects : Selector → List Level → Bool
  | any, _ => true
  | none, _ => false
  | tag name, levels => levels.head?.any fun l => l.self.name? == some name
  | attr name test value anyCase, levels =>
    levels.head?.any fun l =>
      match l.self.attr? name with
      | some v =>
        let v := v.toList
        if anyCase then testValue test (value.map Char.toLower) (v.map Char.toLower)
        else testValue test value v
      | .none => false
  | root, levels => levels.length == 1 && levels.head?.any fun l => l.self.name? == some "html"
  | vacant, levels => levels.head?.any fun l => isVacant l.self
  | nth fromEnd ofName step offset, levels =>
    levels.head?.any fun l =>
      let side := if fromEnd then l.after else l.before
      let side := if ofName then side.filter (·.name? == l.self.name?) else side
      isNth step offset (side.length + 1)
  | both a b, levels => a.selects levels && b.selects levels
  | either a b, levels => a.selects levels || b.selects levels
  | not a, levels => !a.selects levels
  | after a how b, levels => b.selects levels && (Level.reached how levels).any a.selects
  | has how a, levels => (Level.ahead how levels).any a.selects

/-- The elements of a page that a selector means, in the order of the page. -/
def pick (s : Selector) (page : List Dom) : List Dom :=
  let all := (Level.split [] page).flatMap fun l =>
    [l] :: Level.descendants l.self.depth [l]
  (all.filter s.selects).filterMap fun levels => levels.head?.map Level.self

/-! ## Reading -/

/-- Whether a character may stand in a name. -/
def isNameChar (c : Char) : Bool := c.isAlphanum || c == '-' || c == '_' || 128 ≤ c.toNat

/-- Whether a character may start a name. -/
def isNameStart (c : Char) : Bool := c.isAlpha || c == '_' || 128 ≤ c.toNat

/-- A character after a backslash. -/
def readEscape? (s : List Char) : Option (Char × List Char) :=
  match s with
  | [] => some ('\uFFFD', [])
  | c :: rest =>
    if c == '\n' then .none
    else
      match (s.take 6).takeWhile fun c => (Text.hexDigit? c).isSome with
      | [] => some (c, rest)
      | digits =>
        let n := digits.foldl (fun n c => n * 16 + (Text.hexDigit? c).getD 0) 0
        let rest := s.drop digits.length
        let rest :=
          match rest with
          | c :: r => if isTagBlank c then r else rest
          | [] => []
        let bad := n == 0 || 0x110000 ≤ n || (0xD800 ≤ n && n < 0xE000)
        some (if bad then '\uFFFD' else Char.ofNat n, rest)

/-- The characters of a name from here on. `fuel` bounds their number. -/
def readNameRest : Nat → List Char → List Char × List Char
  | 0, s => ([], s)
  | _ + 1, [] => ([], [])
  | fuel + 1, c :: s =>
    if isNameChar c then
      let (name, rest) := readNameRest fuel s
      (c :: name, rest)
    else if c == '\\' then
      match readEscape? s with
      | some (d, rest) =>
        let (name, rest) := readNameRest fuel rest
        (d :: name, rest)
      | .none => ([], c :: s)
    else ([], c :: s)

/-- A name. -/
def readName? (s : List Char) : Option (List Char × List Char) :=
  let starts : Bool :=
    match s with
    | '-' :: '-' :: _ => true
    | '-' :: c :: _ => isNameStart c || c == '\\'
    | c :: _ => isNameStart c || c == '\\'
    | [] => false
  if starts then some (readNameRest (s.length + 1) s) else .none

/-- A text up to its closing quote. `fuel` bounds its length. -/
def readString? (q : Char) : Nat → List Char → Option (List Char × List Char)
  | 0, _ => .none
  | _ + 1, [] => some ([], [])
  | fuel + 1, c :: s =>
    if c == q then some ([], s)
    else if c == '\n' then .none
    else if c == '\\' then
      match s with
      | '\n' :: s => readString? q fuel s
      | s =>
        match readEscape? s with
        | some (d, rest) => (readString? q fuel rest).map fun (t, rest) => (d :: t, rest)
        | .none => .none
    else (readString? q fuel s).map fun (t, rest) => (c :: t, rest)

/-- Passes over blanks. -/
def skipBlanks (s : List Char) : List Char := s.dropWhile isTagBlank

/-- The end of the test of an attribute: the sign for any case, and the bracket. -/
def closeAttr? (name : String) (test : ValueTest) (value s : List Char) :
    Option (Selector × List Char) :=
  match skipBlanks s with
  | ']' :: rest => some (.attr name test value false, rest)
  | c :: s =>
    match skipBlanks s with
    | ']' :: rest =>
      if c.toLower == 'i' then some (.attr name test value true, rest)
      else if c.toLower == 's' then some (.attr name test value false, rest)
      else .none
    | _ => .none
  | [] => some (.attr name test value false, [])

/-- The test of an attribute, after its opening bracket. -/
def readAttr? (s : List Char) : Option (Selector × List Char) := do
  let (name, s) ← readName? (skipBlanks s)
  let name := lowered name
  let s := skipBlanks s
  let (test, s) ←
    match s with
    | [] => some (ValueTest.present, [])
    | ']' :: _ => some (ValueTest.present, s)
    | '=' :: s => some (.equal, s)
    | '~' :: '=' :: s => some (.word, s)
    | '|' :: '=' :: s => some (.dashed, s)
    | '^' :: '=' :: s => some (.start, s)
    | '$' :: '=' :: s => some (.stop, s)
    | '*' :: '=' :: s => some (.part, s)
    | _ => .none
  if test == .present then closeAttr? name test [] s
  else
    match skipBlanks s with
    | '"' :: s => (readString? '"' (s.length + 1) s).bind fun (v, s) => closeAttr? name test v s
    | '\'' :: s => (readString? '\'' (s.length + 1) s).bind fun (v, s) => closeAttr? name test v s
    | s => (readName? s).bind fun (v, s) => closeAttr? name test v s

/-- A number with or without a sign. -/
def readInt? (s : List Char) : Option (Int × List Char) :=
  let (negative, s) :=
    match s with
    | '-' :: s => (true, s)
    | '+' :: s => (false, s)
    | s => (false, s)
  match s.span Char.isDigit with
  | ([], _) => .none
  | (digits, rest) =>
    let n : Nat := digits.foldl (fun n c => n * 10 + (c.toNat - '0'.toNat)) 0
    some (if negative then -n else n, rest)

/-- A rule for places in the order of siblings, up to its parenthesis. -/
def readPlaces? (s : List Char) : Option (Int × Int × List Char) := do
  let s := skipBlanks s
  let low := lowered (s.take 4)
  if low == "even" then return (2, 0, s.drop 4)
  if lowered (s.take 3) == "odd" then return (2, 1, s.drop 3)
  let offsetOf (step : Int) (s : List Char) : Option (Int × Int × List Char) :=
    match skipBlanks s with
    | '+' :: t => (readInt? (skipBlanks t)).map fun (n, rest) => (step, n, rest)
    | '-' :: t => (readInt? (skipBlanks t)).map fun (n, rest) => (step, -n, rest)
    | t => some (step, 0, t)
  match s with
  | 'n' :: s => offsetOf 1 s
  | '+' :: 'n' :: s => offsetOf 1 s
  | '-' :: 'n' :: s => offsetOf (-1) s
  | s =>
    let (n, rest) ← readInt? s
    match rest with
    | 'n' :: rest => offsetOf n rest
    | rest => some (0, n, rest)

/-- The conditions with a name alone. -/
def plainCondition? (name : String) : Option Selector :=
  match name with
  | "first-child" => some (.nth false false 0 1)
  | "last-child" => some (.nth true false 0 1)
  | "only-child" => some (.both (.nth false false 0 1) (.nth true false 0 1))
  | "first-of-type" => some (.nth false true 0 1)
  | "last-of-type" => some (.nth true true 0 1)
  | "only-of-type" => some (.both (.nth false true 0 1) (.nth true true 0 1))
  | "root" => some .root
  | "scope" => some .root
  | "empty" => some .vacant
  | _ => .none

/-- The conditions on places with an argument: whether they count from the end, and whether they
count elements of one name. -/
def placeCondition? (name : String) : Option (Bool × Bool) :=
  match name with
  | "nth-child" => some (false, false)
  | "nth-last-child" => some (true, false)
  | "nth-of-type" => some (false, true)
  | "nth-last-of-type" => some (true, true)
  | _ => .none

/-- A parenthesis that closes, or the end of the text. -/
def closeParen? (s : List Char) : Option (List Char) :=
  match skipBlanks s with
  | ')' :: rest => some rest
  | [] => some []
  | _ => .none

/-- A sign between two parts, with the blanks around it. -/
def readCombinator (s : List Char) : Option Combinator × List Char :=
  let t := skipBlanks s
  match t with
  | '>' :: rest => (some .child, skipBlanks rest)
  | '+' :: rest => (some .next, skipBlanks rest)
  | '~' :: rest => (some .later, skipBlanks rest)
  | t => (if t.length < s.length then some .descendant else .none, t)

/-- Whether a part ends here. -/
def endsPart (inParens : Bool) (s : List Char) : Bool :=
  match s with
  | [] => true
  | ',' :: _ => true
  | ')' :: _ => inParens
  | _ => false

mutual

/-- The simple tests from here on, all of which have to hold. -/
def readSimples? : Nat → Selector → List Char → Option (Selector × List Char)
  | 0, _, _ => .none
  | fuel + 1, acc, s =>
    match s with
    | '#' :: s => do
      let (name, s) ← readName? s
      readSimples? fuel (.both acc (.attr "id" .equal name false)) s
    | '.' :: s => do
      let (name, s) ← readName? s
      readSimples? fuel (.both acc (.attr "class" .word name false)) s
    | '[' :: s => do
      let (test, s) ← readAttr? s
      readSimples? fuel (.both acc test) s
    | ':' :: s => do
      let (name, s) ← readName? s
      let name := lowered name
      match s with
      | '(' :: s =>
        match placeCondition? name with
        | some (fromEnd, ofName) =>
          let (step, offset, s) ← readPlaces? s
          let s ← closeParen? s
          readSimples? fuel (.both acc (.nth fromEnd ofName step offset)) s
        | .none =>
          match name with
          | "not" =>
            let (a, s) ← readList? fuel true s
            readSimples? fuel (.both acc (.not a)) (← closeParen? s)
          | "is" | "where" =>
            let (a, s) ← readList? fuel true s
            readSimples? fuel (.both acc a) (← closeParen? s)
          | "has" =>
            let (a, s) ← readRelative? fuel s
            readSimples? fuel (.both acc a) (← closeParen? s)
          | _ => .none
      | s =>
        let test ← plainCondition? name
        readSimples? fuel (.both acc test) s
    | s => some (acc, s)

/-- One part: a name or a star, and tests. -/
def readPart? : Nat → List Char → Option (Selector × List Char)
  | 0, _ => .none
  | fuel + 1, s =>
    match s with
    | '*' :: s => readSimples? fuel .any s
    | s =>
      match readName? s with
      | some (name, s) => readSimples? fuel (.tag (lowered name)) s
      | .none =>
        match readSimples? fuel .any s with
        | some (a, rest) => if rest.length < s.length then some (a, rest) else .none
        | .none => .none

/-- Parts after a first one, with the signs between them. -/
def readParts? : Nat → Bool → Selector → List Char → Option (Selector × List Char)
  | 0, _, _, _ => .none
  | fuel + 1, inParens, left, s =>
    match readCombinator s with
    | (.none, rest) => if endsPart inParens rest then some (left, rest) else .none
    | (some how, rest) =>
      if how == .descendant && endsPart inParens rest then some (left, rest)
      else do
        let (right, rest) ← readPart? fuel rest
        readParts? fuel inParens (.after left how right) rest

/-- Selectors with commas between them. -/
def readList? : Nat → Bool → List Char → Option (Selector × List Char)
  | 0, _, _ => .none
  | fuel + 1, inParens, s => do
    let (a, s) ← readPart? fuel (skipBlanks s)
    let (a, s) ← readParts? fuel inParens a s
    match s with
    | ',' :: s =>
      let (b, s) ← readList? fuel inParens s
      pure (.either a b, s)
    | s => pure (a, s)

/-- Selectors for what is ahead of an element. -/
def readRelative? : Nat → List Char → Option (Selector × List Char)
  | 0, _ => .none
  | fuel + 1, s => do
    let (how, s) := readCombinator s
    let (a, s) ← readPart? fuel s
    let (a, s) ← readParts? fuel true a s
    let test := Selector.has (how.getD .descendant) a
    match s with
    | ',' :: s =>
      let (b, s) ← readRelative? fuel s
      pure (.either test b, s)
    | s => pure (test, s)

end

/-- Reads a selector. -/
def read? (text : String) : Option Selector :=
  let s := text.toList
  match readList? (3 * s.length + 3) false s with
  | some (a, []) => some a
  | _ => .none

end Selector

end ContextCompiler.Html
