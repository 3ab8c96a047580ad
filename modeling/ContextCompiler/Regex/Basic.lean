import ContextCompiler.Text.CaseFold
import ContextCompiler.Text.Property
import Std.Data.HashSet

/-!
Regular expressions and where they match.

The ways in which an expression matches from a spot are listed in order of preference: the
first branch of a choice before the second, and one more round of a repetition before or after
its end, as the repetition is greedy or lazy. The match of an expression is the most preferred
way at the leftmost spot that has one.
-/

namespace ContextCompiler

/-- A set of characters. -/
inductive CharSet where
  | range (lo hi : Char)
  /-- The characters that differ from the given one at most in case. -/
  | caseOf (c : Char)
  | digit
  | blank
  | word
  | named (p : Text.Property)
  | all
  | none
  | union (a b : CharSet)
  | inter (a b : CharSet)
  | compl (a : CharSet)
  /-- The characters with a case variant in the set. -/
  | anyCase (a : CharSet)
  /-- The characters of the set, and the ASCII letters with a case variant in it. -/
  | anyAsciiCase (a : CharSet)
  deriving Repr

namespace CharSet

/-- Membership. -/
def has : CharSet → Char → Bool
  | range lo hi, c => lo ≤ c && c ≤ hi
  | caseOf d, c => c == d || Text.sameFold c d
  | digit, c => if c.toNat < 128 then c.isDigit else Text.category c == ('N', 'd')
  | blank, c => Text.isBlank c
  | word, c => Text.isWordChar c
  | named p, c => p.has c
  | all, _ => true
  | none, _ => false
  | union a b, c => a.has c || b.has c
  | inter a b, c => a.has c && b.has c
  | compl a, c => !a.has c
  | anyCase a, c => (Text.caseVariants c).any a.has
  | anyAsciiCase a, c => a.has c || a.has c.toLower || a.has c.toUpper

/-- The set of one character. -/
def single (c : Char) : CharSet := range c c

/-- The set of the characters of a text. -/
def ofString (s : String) : CharSet := s.toList.foldr (fun c a => union (single c) a) none

end CharSet

/-- Where a spot lies among words. -/
inductive WordEdge where
  | edge
  | noEdge
  | start
  | stop
  | notAfter
  | notBefore
  deriving DecidableEq, Repr

/-- Whether a spot lies so, by whether a word's characters stand before and after it. -/
def WordEdge.holds (e : WordEdge) (before after : Bool) : Bool :=
  match e with
  | edge => before != after
  | noEdge => before == after
  | start => !before && after
  | stop => before && !after
  | notAfter => !before
  | notBefore => !after

/-- A condition on a spot in a text; words may be made of ASCII characters only. -/
inductive Anchor where
  | textStart
  | textEnd
  | lineStart
  | lineEnd
  /-- A line start where a carriage return ends a line too. -/
  | anyLineStart
  | anyLineEnd
  | atWord (e : WordEdge) (ascii : Bool)
  deriving DecidableEq, Repr

/-- A regular expression. -/
inductive Regex where
  | empty
  | one (set : CharSet)
  | anchor (a : Anchor)
  | seq (r s : Regex)
  | alt (r s : Regex)
  /-- A part that is repeated at least `min` and at most `max` times. -/
  | rep (r : Regex) (min : Nat) (max : Option Nat) (greedy : Bool)
  | group (index : Nat) (r : Regex)
  deriving Repr

/-- A spot in a text: how many characters are before it, the last of them, what follows, and
the parts that groups have matched on the way here, latest first. -/
structure Spot where
  pos : Nat
  before : Option Char
  rest : List Char
  groups : List (Nat × Nat × Nat)

namespace Spot

/-- The start of a text. -/
def start (s : List Char) : Spot := ⟨0, none, s, []⟩

/-- The spot after the next character. -/
def next? (p : Spot) : Option (Char × Spot) :=
  match p.rest with
  | [] => none
  | c :: s => some (c, { p with pos := p.pos + 1, before := some c, rest := s })

/-- Whether a character belongs to a word. -/
def isWord (ascii : Bool) (c : Option Char) : Bool :=
  c.any fun c => Text.isWordChar c && (!ascii || c.toNat < 128)

/-- Whether a condition holds at a spot. -/
def satisfies (p : Spot) (a : Anchor) : Bool :=
  let after := p.rest.head?
  match a with
  | .textStart => p.before.isNone
  | .textEnd => after.isNone
  | .lineStart => p.before.all (· == '\n')
  | .lineEnd => after.all (· == '\n')
  | .anyLineStart =>
    match p.before with
    | none => true
    | some '\n' => true
    | some '\r' => after != some '\n'
    | some _ => false
  | .anyLineEnd =>
    match after with
    | none => true
    | some '\r' => true
    | some '\n' => p.before != some '\r'
    | some _ => false
  | .atWord e ascii => e.holds (isWord ascii p.before) (isWord ascii after)

/-- Keeps the first of several spots at the same place. -/
def distinct (ps : List Spot) : List Spot :=
  match ps with
  | [] => []
  | [p] => [p]
  | ps =>
    let step (acc : Std.HashSet Nat × List Spot) (p : Spot) : Std.HashSet Nat × List Spot :=
      if acc.1.contains p.pos then acc else (acc.1.insert p.pos, p :: acc.2)
    (ps.foldl step ({}, [])).2.reverse

end Spot

/-- The spots of a walk through the rounds of a repetition: the places from which a round was
taken, each with the number of rounds that could follow it where that is limited, the places
that are listed, and the list, latest first. -/
structure Rounds where
  taken : Std.HashSet (Nat × Nat) := {}
  listed : Std.HashSet Nat := {}
  found : List Spot := []

namespace Rounds

/-- Lists a spot, unless its place is listed. -/
def list (w : Rounds) (p : Spot) : Rounds :=
  if w.listed.contains p.pos then w
  else { w with listed := w.listed.insert p.pos, found := p :: w.found }

/-- The spots after one or more rounds of `step`. A round that does not move ends the walk;
`fuel` bounds the number of moving rounds that can follow. -/
def walk (step : Spot → List Spot) (greedy : Bool) : Nat → Spot → Rounds → Rounds
  | 0, p, w => (step p).foldl list w
  | fuel + 1, p, w =>
    if w.taken.contains (0, p.pos) then w
    else
      let goOn (w : Rounds) (q : Spot) : Rounds :=
        if q.pos == p.pos then w.list q
        else if greedy then (walk step greedy fuel q w).list q
        else walk step greedy fuel q (w.list q)
      (step p).foldl goOn { w with taken := w.taken.insert (0, p.pos) }

/-- The spots after at most `n` rounds of `step`. From one place with as many rounds left, all
that can be reached is listed the first time. -/
def atMost (step : Spot → List Spot) (greedy : Bool) : Nat → Spot → Rounds → Rounds
  | 0, p, w => w.list p
  | n + 1, p, w =>
    if w.taken.contains (n, p.pos) then w
    else
      let goOn (w : Rounds) : Rounds :=
        (step p).foldl (fun w q => atMost step greedy n q w)
          { w with taken := w.taken.insert (n, p.pos) }
      if greedy then (goOn w).list p else goOn (w.list p)

end Rounds

namespace Regex

/-- The spots after exactly `n` rounds of `step`. -/
def exactly (step : Spot → List Spot) (p : Spot) : Nat → List Spot
  | 0 => [p]
  | n + 1 => Spot.distinct ((exactly step p n).flatMap step)

/-- The spots after at most `n` rounds of `step` from any of some spots. -/
def atMost (step : Spot → List Spot) (greedy : Bool) (n : Nat) (ps : List Spot) : List Spot :=
  (ps.foldl (fun w p => Rounds.atMost step greedy n p w) ({} : Rounds)).found.reverse

/-- The spots after one or more rounds of `step`. -/
def rounds (step : Spot → List Spot) (greedy : Bool) (p : Spot) : List Spot :=
  (Rounds.walk step greedy (p.rest.length + 1) p {}).found.reverse

/-- The spots after any number of rounds of `step`. -/
def anyRounds (step : Spot → List Spot) (greedy : Bool) (p : Spot) : List Spot :=
  let more := rounds step greedy p
  Spot.distinct (if greedy then more ++ [p] else p :: more)

/-- The spots where a match from a spot can end, in order of preference. -/
def ends : Regex → Spot → List Spot
  | empty, p => [p]
  | one set, p =>
    match p.next? with
    | some (c, q) => if set.has c then [q] else []
    | none => []
  | anchor a, p => if p.satisfies a then [p] else []
  | seq r s, p => Spot.distinct ((r.ends p).flatMap s.ends)
  | alt r s, p => Spot.distinct (r.ends p ++ s.ends p)
  | rep r min none greedy, p =>
    match min with
    | 0 => anyRounds r.ends greedy p
    | n + 1 => Spot.distinct ((exactly r.ends p n).flatMap (rounds r.ends greedy))
  | rep r min (some max) greedy, p =>
    atMost r.ends greedy (max - min) (exactly r.ends p min)
  | group i r, p =>
    (r.ends p).map fun q => { q with groups := (i, p.pos, q.pos) :: q.groups }

/-- Where the leftmost match from a spot on starts and ends. -/
def findFrom (r : Regex) (pos : Nat) (before : Option Char) : List Char → Option (Spot × Spot)
  | [] =>
    let p : Spot := ⟨pos, before, [], []⟩
    (r.ends p).head?.map fun q => (p, q)
  | c :: s =>
    let p : Spot := ⟨pos, before, c :: s, []⟩
    match (r.ends p).head? with
    | some q => some (p, q)
    | none => findFrom r (pos + 1) (some c) s

/-- Where the next match starts and ends, after a match that ended at the spot. The empty
match right behind a match does not count. -/
def next? (r : Regex) (p : Spot) (afterMatch : Bool) : Option (Spot × Spot) :=
  match r.findFrom p.pos p.before p.rest with
  | none => none
  | some (a, b) =>
    if afterMatch && a.pos == b.pos && b.pos == p.pos then
      match p.next? with
      | none => none
      | some (_, q) => r.findFrom q.pos q.before q.rest
    else some (a, b)

/-- The text from a spot on with every match replaced. `fuel` bounds the number of matches. -/
def replaceFrom (r : Regex) (f : Spot → Spot → List Char) : Nat → Spot → Bool → List Char
  | 0, p, _ => p.rest
  | fuel + 1, p, afterMatch =>
    match r.next? p afterMatch with
    | none => p.rest
    | some (a, b) => p.rest.take (a.pos - p.pos) ++ f a b ++ replaceFrom r f fuel b true

/-- The text with every match replaced by what `f` makes of it. Matches are found from left to
right and do not overlap. -/
def replaceWith (r : Regex) (f : Spot → Spot → List Char) (s : List Char) : List Char :=
  r.replaceFrom f (s.length + 2) (.start s) false

/-- The expression that matches a text, character by character. -/
def literal (s : String) : Regex :=
  s.toList.foldr (fun c r => .seq (.one (.single c)) r) .empty

/-- Expressions one after the other. -/
def seqs : List Regex → Regex
  | [] => .empty
  | [r] => r
  | r :: rest => .seq r (seqs rest)

/-- Expressions of which the first that matches is preferred. -/
def alts : List Regex → Regex
  | [] => .empty
  | [r] => r
  | r :: rest => .alt r (alts rest)

/-- The expression that matches a text in whatever case. -/
def anyCase (word : List Char) : Regex := seqs (word.map fun c => .one (.caseOf c))

/-- Any number of rounds, as many as possible. -/
def many (r : Regex) : Regex := .rep r 0 none true

/-- At least one round, as many as possible. -/
def many1 (r : Regex) : Regex := .rep r 1 none true

/-- At most one round, and one if possible. -/
def maybe (r : Regex) : Regex := .rep r 0 (some 1) true

end Regex

end ContextCompiler
