/-!
Blank characters and trimming.

A character is blank when it has the Unicode property `White_Space`. Texts are trimmed as
lists of characters; the functions on strings wrap those.
-/

namespace ContextCompiler.Text

/-- Membership in the Unicode property `White_Space`. -/
def isBlank (c : Char) : Bool :=
  let n := c.toNat
  (9 ≤ n && n ≤ 13) || n == 0x20 || n == 0x85 || n == 0xA0 || n == 0x1680
    || (0x2000 ≤ n && n ≤ 0x200A) || n == 0x2028 || n == 0x2029 || n == 0x202F
    || n == 0x205F || n == 0x3000

/-- Drops the longest final run of characters that satisfy `p`. -/
def dropEndWhile (p : Char → Bool) (s : List Char) : List Char :=
  (s.reverse.dropWhile p).reverse

/-- Drops the characters that satisfy `p` from both ends. -/
def trimWhile (p : Char → Bool) (s : List Char) : List Char :=
  dropEndWhile p (s.dropWhile p)

/-- The text without blank characters at its ends. -/
def trim (s : String) : String :=
  String.ofList (trimWhile isBlank s.toList)

/-- The text without blank characters at its end. -/
def trimEnd (s : String) : String :=
  String.ofList (dropEndWhile isBlank s.toList)

/-- The text without blank characters at its start. -/
def trimStart (s : String) : String :=
  String.ofList (s.toList.dropWhile isBlank)

/-- The text without the character `c` at its ends. -/
def trimChar (c : Char) (s : String) : String :=
  String.ofList (trimWhile (· == c) s.toList)

/-- Whether every character of the text is blank. The empty text is. -/
def isBlankText (s : String) : Bool :=
  s.toList.all isBlank

theorem isBlank_of_isWhitespace {c : Char} (h : c.isWhitespace = true) : isBlank c = true := by
  simp only [Char.isWhitespace, Bool.or_eq_true, decide_eq_true_eq] at h
  rcases h with ((rfl | rfl) | rfl) | rfl <;> decide

theorem dropEndWhile_append_of_pos {p : Char → Bool} {s : List Char} {c : Char} (h : p c = true) :
    dropEndWhile p (s ++ [c]) = dropEndWhile p s := by
  simp [dropEndWhile, h]

theorem dropEndWhile_append_of_neg {p : Char → Bool} {s : List Char} {c : Char} (h : p c = false) :
    dropEndWhile p (s ++ [c]) = s ++ [c] := by
  simp [dropEndWhile, h]

end ContextCompiler.Text
