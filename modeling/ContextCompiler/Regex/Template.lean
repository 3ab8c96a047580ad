import ContextCompiler.Regex.Basic
import ContextCompiler.Text.Search

/-!
What takes the place of matches.

A template may refer to the groups of a match. A dollar sign starts a reference: to a name of
letters, digits and underscores, as long as it goes on, or to any name in braces. Two dollar signs
stand for one, and a dollar sign without a name behind it stands for itself. Groups are known by
their numbers, and other names stand for nothing.
-/

namespace ContextCompiler

namespace Template

/-- Characters of a name without braces. -/
def isNameChar (c : Char) : Bool := c.isAlphanum || c == '_'

/-- The name at the start of a text, and the rest after it. -/
def readName (s : List Char) : Option (List Char × List Char) :=
  match s with
  | '\x7b' :: s =>
    match s.dropWhile (· != '\x7d') with
    | [] => none
    | _ :: rest => some (s.takeWhile (· != '\x7d'), rest)
  | s =>
    if (s.takeWhile isNameChar).isEmpty then none
    else some (s.takeWhile isNameChar, s.dropWhile isNameChar)

/-- What a dollar sign in front of a text stands for, and the rest of the text. -/
def readReference (group : List Char → List Char) (s : List Char) : List Char × List Char :=
  match s with
  | '$' :: rest => (['$'], rest)
  | s =>
    match readName s with
    | some (name, rest) => (group name, rest)
    | none => (['$'], s)

theorem readName_length {s name rest : List Char} (h : readName s = some (name, rest)) :
    rest.length ≤ s.length := by
  unfold readName at h
  split at h
  · next s =>
    split at h
    · cases h
    · next heq =>
      cases h
      have hle := (List.dropWhile_suffix (l := s) (· != '\x7d')).length_le
      rw [heq, List.length_cons] at hle
      exact Nat.le_succ_of_le (Nat.le_of_succ_le hle)
  · split at h
    · cases h
    · cases h
      exact (List.dropWhile_suffix _).length_le

theorem readReference_length (group : List Char → List Char) (s : List Char) :
    (readReference group s).2.length ≤ s.length := by
  unfold readReference
  split
  · exact Nat.le_succ _
  · split
    · next h => exact readName_length h
    · exact Nat.le_refl _

/-- The text of a template, given the text of each group. -/
def expand (group : List Char → List Char) : List Char → List Char
  | [] => []
  | c :: s =>
    if c == '$' then
      (readReference group s).1 ++ expand group (readReference group s).2
    else c :: expand group s
termination_by t => t.length
decreasing_by
  · exact Nat.lt_succ_of_le (readReference_length group s)
  · exact Nat.lt_succ_self _

/-- The template of a text that is to stand as it is. -/
def escape (s : List Char) : List Char := Text.replaceAll ['$'] ['$', '$'] s

end Template

namespace Regex

/-- The number that a name is. -/
def groupNumber? (name : List Char) : Option Nat :=
  if name.isEmpty || !name.all Char.isDigit then none
  else some (name.foldl (fun n c => n * 10 + (c.toNat - '0'.toNat)) 0)

/-- What the group of a number has matched, of a match between two spots. Number 0 is the whole
match. -/
def groupText (a b : Spot) (name : List Char) : List Char :=
  match groupNumber? name with
  | none => []
  | some 0 => a.rest.take (b.pos - a.pos)
  | some i =>
    match b.groups.find? (·.1 == i) with
    | some (_, start, stop) => (a.rest.drop (start - a.pos)).take (stop - start)
    | none => []

/-- The text with every match replaced by what a template comes to there. -/
def replaceAll (r : Regex) (template s : List Char) : List Char :=
  r.replaceWith (fun a b => Template.expand (groupText a b) template) s

end Regex

end ContextCompiler
