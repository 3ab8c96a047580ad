import ContextCompiler.Config.SortedMap
import ContextCompiler.Text.Blank
import ContextCompiler.Text.Search

/-!
Variable scopes and substitution.

Texts of documents and prompts refer to variables as `{{KEY}}`, import directives refer to
the environment as `${KEY}`. Substitution goes through the text once: a value is never read
again, and a token whose key is not bound stays as it is.
-/

namespace ContextCompiler

/-- The two ways to write a reference to a variable. -/
inductive TokenForm where
  | braces
  | dollar
  deriving DecidableEq, Repr

namespace TokenForm

/-- Characters a key may start with. -/
def isKeyStart (c : Char) : Bool := c.isAlpha || c == '_'

/-- Characters a key may go on with. -/
def isKeyChar (c : Char) : Bool := c.isAlphanum || c == '_' || c == '.' || c == '-'

/-- The longest key at the start of a text, and the rest. -/
def readKey : List Char → Option (List Char × List Char)
  | [] => none
  | c :: s =>
    if isKeyStart c then some (c :: s.takeWhile isKeyChar, s.dropWhile isKeyChar) else none

/-- The key of the token at the start of a text, and the rest after the token. Blanks may stand
around the key between braces, and nowhere else. -/
def readToken : TokenForm → List Char → Option (List Char × List Char)
  | braces, s => do
    let s ← Text.dropPrefix? ['{', '{'] s
    let (key, s) ← readKey (s.dropWhile Text.isBlank)
    let s ← Text.dropPrefix? ['}', '}'] (s.dropWhile Text.isBlank)
    pure (key, s)
  | dollar, s => do
    let s ← Text.dropPrefix? ['$', '{'] s
    let (key, s) ← readKey s
    let s ← Text.dropPrefix? ['}'] s
    pure (key, s)

theorem readKey_length {s k r : List Char} (h : readKey s = some (k, r)) :
    r.length < s.length := by
  cases s with
  | nil => simp [readKey] at h
  | cons c s =>
    simp only [readKey] at h
    split at h
    · cases h
      exact Nat.lt_succ_of_le (List.dropWhile_suffix _).length_le
    · cases h

theorem dropPrefix?_length {p s r : List Char} (h : Text.dropPrefix? p s = some r) :
    r.length ≤ s.length := by
  rw [Text.dropPrefix?_eq_some_iff] at h
  simp [h]

theorem readToken_length {f : TokenForm} {s k r : List Char} (h : readToken f s = some (k, r)) :
    r.length < s.length := by
  cases f with
  | braces =>
    simp only [readToken, Option.bind_eq_bind, Option.bind_eq_some_iff, Prod.exists] at h
    obtain ⟨a, ha, k', b, hb, c, hc, e⟩ := h
    cases e
    have h1 := dropPrefix?_length ha
    have h2 := readKey_length hb
    have h3 := dropPrefix?_length hc
    have h4 := (List.dropWhile_suffix (l := a) Text.isBlank).length_le
    have h5 := (List.dropWhile_suffix (l := b) Text.isBlank).length_le
    omega
  | dollar =>
    simp only [readToken, Option.bind_eq_bind, Option.bind_eq_some_iff, Prod.exists] at h
    obtain ⟨a, ha, k', b, hb, c, hc, e⟩ := h
    cases e
    have h1 := dropPrefix?_length ha
    have h2 := readKey_length hb
    have h3 := dropPrefix?_length hc
    omega

/-- Whether a token stands somewhere in a text. -/
def isIn (f : TokenForm) : List Char → Bool
  | [] => false
  | c :: s => (f.readToken (c :: s)).isSome || f.isIn s

/-- The text with every token whose key `lookup` knows replaced by its value. -/
def fill (f : TokenForm) (lookup : List Char → Option (List Char)) (s : List Char) : List Char :=
  match _h : readToken f s with
  | some (key, rest) =>
    match lookup key with
    | some value => value ++ fill f lookup rest
    | none => s.take (s.length - rest.length) ++ fill f lookup rest
  | none =>
    match s with
    | [] => []
    | c :: s => c :: fill f lookup s
termination_by s.length
decreasing_by
  · exact readToken_length (by assumption)
  · exact readToken_length (by assumption)
  · simp

end TokenForm

/-- Values by key. -/
abbrev Scope := SortedMap String

namespace Scope

/-- Replaces the tokens of one form whose key is bound. Without bindings or tokens there is nothing
to be done. -/
def fillTokens (scope : Scope) (f : TokenForm) (text : String) : String :=
  if scope.isEmpty then text
  else if f.isIn text.toList then
    String.ofList
      (f.fill (fun key => (scope.get? (String.ofList key)).map String.toList) text.toList)
  else text

/-- Replaces every `{{KEY}}` whose key is bound. -/
def substitute (scope : Scope) (text : String) : String := scope.fillTokens .braces text

/-- Replaces every `${KEY}` whose key is bound. -/
def substituteEnv (scope : Scope) (text : String) : String := scope.fillTokens .dollar text

end Scope

end ContextCompiler
