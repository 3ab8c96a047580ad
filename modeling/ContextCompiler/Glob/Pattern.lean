import ContextCompiler.Text.Search

/-!
Path patterns with wildcards.

`*` stands for any run of characters within one path segment, `?` for one such character,
`**` for any characters of a line, and `**/` for nothing or any characters of a line
that end in a slash. All other characters stand for themselves. A run of stars is read in
pairs from the left, except that its last two stars go with a slash that follows.
-/

namespace ContextCompiler

/-- One part of a path pattern. -/
inductive GlobToken where
  | lit (c : Char)
  | one
  | run
  | deep
  | deepSlash
  deriving DecidableEq, Repr

/-- A path pattern with the text it was written as. -/
structure Glob where
  raw : String
  tokens : List GlobToken
  deriving DecidableEq, Repr

namespace GlobToken

/-- Tokens of the pattern text where `**/` is looked for first, as left to right scans do. -/
def markDeepSlash : List Char → List (Option Char)
  | [] => []
  | [a] => [some a]
  | [a, b] => [some a, some b]
  | a :: b :: c :: s =>
    if a == '*' && b == '*' && c == '/' then none :: markDeepSlash s
    else some a :: markDeepSlash (b :: c :: s)

/-- Reads the characters that are left: pairs of stars, single stars, question marks. -/
def ofMarked : List (Option Char) → List GlobToken
  | [] => []
  | none :: s => deepSlash :: ofMarked s
  | some '*' :: some '*' :: s => deep :: ofMarked s
  | some '*' :: s => run :: ofMarked s
  | some '?' :: s => one :: ofMarked s
  | some c :: s => lit c :: ofMarked s

/-- The tokens of a pattern text. -/
def ofChars (s : List Char) : List GlobToken :=
  ofMarked (markDeepSlash s)

end GlobToken

namespace Glob

/-- Reads a pattern. Every text is one. -/
def ofString (s : String) : Glob :=
  ⟨s, GlobToken.ofChars s.toList⟩

/-- Whether a text has wildcards, and so is a pattern rather than a plain path. -/
def hasWildcard (s : String) : Bool :=
  s.toList.any fun c => c == '*' || c == '?'

/-- Whether some cut of `s` into a front of characters that satisfy `p` and a rest
satisfies `k` at the rest. -/
def someRest (p : Char → Bool) (k : List Char → Bool) : List Char → Bool
  | [] => k []
  | c :: s => k (c :: s) || (p c && someRest p k s)

/-- Whether some cut of `s` into a front on one line that ends in a slash and a rest
satisfies `k` at the rest. -/
def someAfterSlash (k : List Char → Bool) : List Char → Bool
  | [] => false
  | c :: s => (c == '/' && k s) || (c != '\n' && someAfterSlash k s)

/-- Whether the whole text `s` has the form of the tokens. -/
def matchTokens : List GlobToken → List Char → Bool
  | [], s => s.isEmpty
  | .lit c :: ts, s =>
    match s with
    | [] => false
    | d :: s => c == d && matchTokens ts s
  | .one :: ts, s =>
    match s with
    | [] => false
    | d :: s => d != '/' && matchTokens ts s
  | .run :: ts, s => someRest (· != '/') (matchTokens ts) s
  | .deep :: ts, s => someRest (· != '\n') (matchTokens ts) s
  | .deepSlash :: ts, s => matchTokens ts s || someAfterSlash (matchTokens ts) s

/-- The answers of one more token at every rest of the text, from the answers of the tokens after
it. The two lists go along together: the answers are those at the text and at each rest. -/
def extendTable (t : GlobToken) : List Char → List Bool → List Bool
  | [], after =>
    match t with
    | .lit _ => [false]
    | .one => [false]
    | _ => [after.headD false]
  | c :: s, after =>
    let rest := extendTable t s after.tail
    let here := after.headD false
    let next := after.tail.headD false
    (match t with
      | .lit d => d == c && next
      | .one => c != '/' && next
      | .run => here || (c != '/' && rest.headD false)
      | .deep => here || (c != '\n' && rest.headD false)
      | .deepSlash => here || (c == '/' && next)
          || (c != '\n' && slashAhead s after.tail)) :: rest
where
  /-- Whether the tokens after it fit behind a slash further on in the line. -/
  slashAhead : List Char → List Bool → Bool
    | [], _ => false
    | c :: s, after =>
      (c == '/' && after.tail.headD false) || (c != '\n' && slashAhead s after.tail)

/-- The answers of no token: only the end of the text fits. -/
def emptyTable (s : List Char) : List Bool := s.map (fun _ => false) ++ [true]

/-- The answers of the tokens at the text and at each of its rests. -/
def matchTable (ts : List GlobToken) (s : List Char) : List Bool :=
  ts.foldr (fun t after => extendTable t s after) (emptyTable s)

/-- The text and each of its rests. -/
def suffixes : List Char → List (List Char)
  | [] => [[]]
  | c :: s => (c :: s) :: suffixes s

theorem suffixes_eq_cons (s : List Char) : suffixes s = s :: (suffixes s).tail := by
  cases s <;> rfl

theorem headD_map_suffixes (f : List Char → Bool) (s : List Char) :
    ((suffixes s).map f).headD false = f s := by
  rw [suffixes_eq_cons]; rfl

theorem slashAhead_eq (k : List Char → Bool) (s : List Char) :
    extendTable.slashAhead s ((suffixes s).map k) = someAfterSlash k s := by
  induction s with
  | nil => rfl
  | cons c s ih =>
    simp only [extendTable.slashAhead, suffixes, List.map_cons, List.tail_cons,
      headD_map_suffixes, ih, someAfterSlash]

/-- One more token extends the table of answers as it extends the list of tokens. -/
theorem extendTable_eq (t : GlobToken) (ts : List GlobToken) (s : List Char) :
    extendTable t s ((suffixes s).map (matchTokens ts)) =
      (suffixes s).map (matchTokens (t :: ts)) := by
  induction s with
  | nil =>
    cases t with
    | deepSlash =>
      show [matchTokens ts []] = [matchTokens ts [] || false]
      rw [Bool.or_false]
    | _ => rfl
  | cons c s ih =>
    show _ :: extendTable t s ((suffixes s).map (matchTokens ts)) = _
    rw [ih]
    refine congrArg (· :: (suffixes s).map (matchTokens (t :: ts))) ?_
    have next : ((suffixes s).map (matchTokens ts)).headD false = matchTokens ts s :=
      headD_map_suffixes _ _
    have rest : (extendTable t s ((suffixes s).map (matchTokens ts))).headD false =
        matchTokens (t :: ts) s := by
      rw [ih]
      exact headD_map_suffixes _ _
    have ahead : extendTable.slashAhead s ((suffixes s).map (matchTokens ts)) =
        someAfterSlash (matchTokens ts) s :=
      slashAhead_eq _ _
    cases t with
    | lit d => exact congrArg (d == c && ·) next
    | one => exact congrArg (c != '/' && ·) next
    | run => exact congrArg (fun b => matchTokens ts (c :: s) || (c != '/' && b)) rest
    | deep => exact congrArg (fun b => matchTokens ts (c :: s) || (c != '\n' && b)) rest
    | deepSlash =>
      show (matchTokens ts (c :: s) || (c == '/' &&
          ((suffixes s).map (matchTokens ts)).headD false) ||
            (c != '\n' && extendTable.slashAhead s ((suffixes s).map (matchTokens ts)))) =
        (matchTokens ts (c :: s) ||
          ((c == '/' && matchTokens ts s) || (c != '\n' && someAfterSlash (matchTokens ts) s)))
      rw [next, ahead, Bool.or_assoc]

/-- The table answers for the text and each of its rests at once. -/
theorem matchTable_eq (ts : List GlobToken) (s : List Char) :
    matchTable ts s = (suffixes s).map (matchTokens ts) := by
  induction ts with
  | nil =>
    simp only [matchTable, List.foldr_nil]
    induction s with
    | nil => rfl
    | cons c s ih => simpa [emptyTable, suffixes, matchTokens] using ih
  | cons t ts ih =>
    rw [← extendTable_eq, ← ih]; rfl

/-- A path as patterns see it: a backslash separates segments as a slash does. -/
def pathChars (path : String) : List Char :=
  path.toList.map fun c => if c == '\\' then '/' else c

/-- Whether the whole path has the form of the pattern. -/
def isMatch (g : Glob) (path : String) : Bool :=
  (matchTable g.tokens (pathChars path)).headD false

/-- A path has the form of a pattern when its characters have the form of the tokens. -/
theorem isMatch_eq (g : Glob) (path : String) :
    g.isMatch path = matchTokens g.tokens (pathChars path) := by
  rw [isMatch, matchTable_eq, headD_map_suffixes]

end Glob

/-! ## Patterns as regular expressions -/

namespace Glob

/-- The signs that mean something in a regular expression. -/
def regexSigns : List Char :=
  ['\\', '.', '+', '*', '?', '(', ')', '|', '[', ']', '\x7b', '\x7d', '^', '$', '#', '&', '-', '~']

/-- A character as it stands for itself in a regular expression. -/
def escaped (c : Char) : List Char := if regexSigns.contains c then ['\\', c] else [c]

/-- The regular expression of a pattern for whole paths. All of the pattern is escaped, and then
what has become of its wildcards is replaced, the longest of them first. -/
def expression (pattern : String) : String :=
  let s := pattern.toList.flatMap escaped
  let s := Text.replaceAll "\\*\\*/".toList "(?:.*/)?".toList s
  let s := Text.replaceAll "\\*\\*".toList ".*".toList s
  let s := Text.replaceAll "\\*".toList "[^/]*".toList s
  let s := Text.replaceAll "\\?".toList "[^/]".toList s
  String.ofList ('^' :: (s ++ ['$']))

end Glob

end ContextCompiler
