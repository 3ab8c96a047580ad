import ContextCompiler.Proofs.Glob.Expression
import ContextCompiler.Regex.Reader

/-!
How a regular expression is read.

There is one step lemma for each kind of sign, for the flags that an expression starts with. A part
that a star or a question mark follows is taken back and put in again as a repetition.
-/

namespace ContextCompiler

namespace Regex

variable {f : Flags} {w : Reading} {n depth : Nat} {c : Char} {s : List Char} {r : Regex}

theorem skipBlanks_eq (hf : f.spaced = false) (s : List Char) : skipBlanks f s = s := by
  cases s with
  | nil => rw [skipBlanks]
  | cons c s =>
    rw [skipBlanks, hf]
    rfl

theorem skipBlanks_start (s : List Char) : skipBlanks .start s = s := skipBlanks_eq rfl s

theorem escape?_sign (h : c ∈ Glob.regexSigns) (s : List Char) :
    escape? f (c :: s) = some (.char c, s) := by
  simp only [Glob.regexSigns, List.mem_cons, List.not_mem_nil, or_false] at h
  rcases h with rfl | rfl | rfl | rfl | rfl | rfl | rfl | rfl | rfl | rfl | rfl | rfl | rfl | rfl |
    rfl | rfl | rfl | rfl <;> rfl

theorem readUntilClose?_nil (hw : w.flags = .start) :
    readUntilClose? (n + 1) depth w [] = some (w, []) := by
  rw [readUntilClose?, hw, skipBlanks_start]

theorem readUntilClose?_caret (hw : w.flags = .start) :
    readUntilClose? (n + 1) depth w ('^' :: s) =
      readUntilClose? n depth (w.add (.anchor .textStart)) s := by
  have hcaret : w.caret = .textStart := by
    rw [Reading.caret, hw]
    rfl
  rw [readUntilClose?, hw, skipBlanks_start, ← hcaret]
  rfl

theorem readUntilClose?_dollar (hw : w.flags = .start) :
    readUntilClose? (n + 1) depth w ('$' :: s) =
      readUntilClose? n depth (w.add (.anchor .textEnd)) s := by
  have hdollar : w.dollar = .textEnd := by
    rw [Reading.dollar, hw]
    rfl
  rw [readUntilClose?, hw, skipBlanks_start, ← hdollar]
  rfl

theorem readUntilClose?_dot (hw : w.flags = .start) :
    readUntilClose? (n + 1) depth w ('.' :: s) =
      readUntilClose? n depth (w.add (.one (.compl (.single '\n')))) s := by
  rw [readUntilClose?, hw, skipBlanks_start]
  simp [Reading.dot?, hw, Flags.start]

theorem readUntilClose?_star (hw : w.flags = .start) (hs : s.head? ≠ some '?') :
    readUntilClose? (n + 1) depth (w.add r) ('*' :: s) =
      readUntilClose? n depth (w.add (.rep r 0 none true)) s := by
  have hrep : (w.add r).repeated? 0 none s = some (w.add (.rep r 0 none true), s) := by
    unfold Reading.repeated? Reading.add
    dsimp only
    split
    · next heq => simp at hs
    · simp [hw, Flags.start]
  rw [readUntilClose?, (show (w.add r).flags = .start from hw), skipBlanks_start]
  simp [hrep]

theorem readUntilClose?_set (hw : w.flags = .start) :
    readUntilClose? (n + 1) depth w ('[' :: '^' :: '/' :: ']' :: s) =
      readUntilClose? n depth (w.add (.one (.compl (.single '/')))) s := by
  rw [readUntilClose?, hw, skipBlanks_start]
  have hopen : openSet .start ('^' :: '/' :: ']' :: s) =
      (⟨true, none, .none⟩, '/' :: ']' :: s) := by
    simp only [openSet, skipBlanks_start]
    rfl
  have hrange : setRange? .start ('/' :: ']' :: s) = some (.single '/', ']' :: s) := by
    simp only [setRange?, skipBlanks_start]
    rfl
  have hfirst : readSet? .start (('/' :: ']' :: s).length + 1) ⟨true, none, .none⟩ []
      ('/' :: ']' :: s) = readSet? .start (s.length + 2) ⟨true, none, .single '/'⟩ []
        (']' :: s) := by
    rw [readSet?, skipBlanks_start]
    simp [hrange, OpenSet.add]
  have hlast : readSet? .start (s.length + 2) ⟨true, none, .single '/'⟩ [] (']' :: s) =
      some (.compl (.single '/'), s) := by
    rw [readSet?, skipBlanks_start]
    rfl
  simp only [hopen, hfirst, hlast]
  rfl

/-- A character that is escaped is read as the flags have it. -/
theorem readUntilClose?_charSet (hw : w.flags.spaced = false) :
    readUntilClose? (n + 1) depth w (Glob.escaped c ++ s) =
      readUntilClose? n depth (w.add (.one (w.charSet c))) s := by
  by_cases hc : c ∈ Glob.regexSigns
  · rw [GlobToken.escaped_of_sign hc, List.cons_append, List.singleton_append, readUntilClose?,
      skipBlanks_eq hw]
    simp only [escape?_sign hc]
    rfl
  · rw [GlobToken.escaped_of_not_sign hc, List.singleton_append, readUntilClose?,
      skipBlanks_eq hw]
    dsimp only
    split
    case h_14 heq =>
      cases heq
      rfl
    all_goals
      first
      | next heq => cases heq; exact absurd (by decide) hc
      | next heq => cases heq

theorem readUntilClose?_escaped (hw : w.flags = .start) :
    readUntilClose? (n + 1) depth w (Glob.escaped c ++ s) =
      readUntilClose? n depth (w.add (.one (.single c))) s := by
  have hset : w.charSet c = .single c := by
    rw [Reading.charSet, hw]
    rfl
  rw [readUntilClose?_charSet (by rw [hw]; rfl), hset]

/-- Behind `(?i)` characters are read in any case. -/
theorem readUntilClose?_anyCase (hw : w.flags = .start) :
    readUntilClose? (n + 1) 0 w ('(' :: '?' :: 'i' :: ')' :: s) =
      readUntilClose? n 0
        { w with flags := { Flags.start with anyCase := true }, repeatable := false } s := by
  have hflags : readFlags? .start [] true ('i' :: ')' :: s) =
      some ({ Flags.start with anyCase := true }, false, ')' :: s) := rfl
  rw [readUntilClose?, hw, skipBlanks_start]
  simp [skipBlanks_start, hflags]

/-- Escaped characters are read one after the other, up to the end. -/
theorem readUntilClose?_flatMap_escaped {cs : List Char} (hw : w.flags.spaced = false)
    (hn : (cs.flatMap Glob.escaped).length < n) : ∃ w' : Reading,
      readUntilClose? n depth w (cs.flatMap Glob.escaped) = some (w', []) ∧
        w'.branches = w.branches ∧
        w'.parts = (cs.map fun c => .one (w.charSet c)).reverse ++ w.parts := by
  induction cs generalizing w n with
  | nil =>
    obtain ⟨k, rfl⟩ : ∃ k, n = k + 1 := ⟨n - 1, by omega⟩
    refine ⟨w, ?_, rfl, rfl⟩
    rw [List.flatMap_nil, readUntilClose?, skipBlanks_eq hw]
  | cons c cs ih =>
    obtain ⟨k, rfl⟩ : ∃ k, n = k + 1 := ⟨n - 1, by omega⟩
    have hlength : 0 < (Glob.escaped c).length :=
      List.length_pos_iff.2 (GlobToken.fragment_ne_nil (.lit c))
    rw [List.flatMap_cons, List.length_append] at hn
    obtain ⟨w', hread, hbranches, hparts⟩ := ih (w := w.add (.one (w.charSet c))) hw
      (n := k) (by omega)
    refine ⟨w', ?_, hbranches, ?_⟩
    · rw [List.flatMap_cons, readUntilClose?_charSet hw, hread]
    · rw [hparts, List.map_cons, List.reverse_cons, List.append_assoc]
      rfl

theorem readUntilClose?_maybe (hw : w.flags = .start) (hs : s.head? ≠ some '?') :
    readUntilClose? (n + 1) depth (w.add r) ('?' :: s) =
      readUntilClose? n depth (w.add (.rep r 0 (some 1) true)) s := by
  have hrep : (w.add r).repeated? 0 (some 1) s = some (w.add (.rep r 0 (some 1) true), s) := by
    unfold Reading.repeated? Reading.add
    dsimp only
    split
    · next heq => simp at hs
    · simp [hw, Flags.start]
  rw [readUntilClose?, (show (w.add r).flags = .start from hw), skipBlanks_start]
  simp [hrep]

theorem readUntilClose?_close (hw : w.flags = .start) :
    readUntilClose? (n + 1) (depth + 1) w (')' :: s) = some (w, ')' :: s) := by
  rw [readUntilClose?, hw, skipBlanks_start]
  rfl

/-- A group that captures nothing is read up to where it closes. -/
theorem readUntilClose?_open {body rest : List Char} {inside : Reading} (hw : w.flags = .start)
    (hdepth : depth ≤ 250)
    (hinside : readUntilClose? n (depth + 1) (w.inner .start) body = some (inside, ')' :: rest)) :
    readUntilClose? (n + 1) depth w ('(' :: '?' :: ':' :: body) =
      readUntilClose? n depth (w.afterGroup inside inside.whole) rest := by
  have hflags : readFlags? .start [] true (':' :: body) = some (.start, true, ':' :: body) := rfl
  rw [readUntilClose?, hw, skipBlanks_start]
  simp [skipBlanks_start, hflags, hinside, Nat.not_lt.2 hdepth]

end Regex

end ContextCompiler
