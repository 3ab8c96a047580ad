import Mathlib.Data.List.Basic
import ContextCompiler.Config.Variables

/-!
Texts in pieces.

How a text falls into tokens does not depend on what is filled in. Substitution puts a value in
place of each token whose key is bound, and leaves the other tokens and all characters between
them as they are (`toList_fillTokens`). So it reads a scope at the keys of the tokens only
(`fillTokens_congr`).
-/

namespace ContextCompiler

/-- A piece of a text: a token with its key, or a character that no token starts with. -/
inductive TextPiece where
  | char (c : Char)
  | token (key : String) (text : List Char)

namespace TextPiece

/-- The characters of a piece. -/
def text : TextPiece → List Char
  | char c => [c]
  | token _ text => text

/-- The key of a token. -/
def key? : TextPiece → Option String
  | char _ => none
  | token key _ => some key

/-- What is put in place of a piece: the value of the key of a token, if the key is bound. -/
def fill (scope : Scope) : TextPiece → List Char
  | char c => [c]
  | token key text => ((scope.get? key).map String.toList).getD text

theorem fill_congr {a b : Scope} {p : TextPiece}
    (h : ∀ key, p.key? = some key → a.get? key = b.get? key) : p.fill a = p.fill b := by
  cases p with
  | char c => rfl
  | token key text => rw [fill, fill, h key rfl]

theorem fill_of_isEmpty {scope : Scope} (h : scope.isEmpty = true) (p : TextPiece) :
    p.fill scope = p.text := by
  have hnone : ∀ key, scope.get? key = none := by
    intro key
    rw [SortedMap.get?, List.isEmpty_iff.1 h]
    rfl
  cases p with
  | char c => rfl
  | token key text =>
    rw [fill, hnone]
    rfl

end TextPiece

namespace TokenForm

variable {f : TokenForm} {s k r : List Char}

theorem suffix_of_dropPrefix? {p : List Char} (h : Text.dropPrefix? p s = some r) : r <:+ s := by
  rw [Text.dropPrefix?_eq_some_iff] at h
  rw [h]
  exact List.suffix_append p r

theorem suffix_of_readKey (h : readKey s = some (k, r)) : r <:+ s := by
  cases s with
  | nil => cases h
  | cons c s =>
    simp only [readKey] at h
    split at h
    · cases h
      exact (List.dropWhile_suffix _).trans (List.suffix_cons c s)
    · cases h

/-- What follows a token is the rest of the text. -/
theorem suffix_of_readToken (h : readToken f s = some (k, r)) : r <:+ s := by
  cases f with
  | braces =>
    simp only [readToken, Option.bind_eq_bind, Option.bind_eq_some_iff, Prod.exists] at h
    obtain ⟨a, ha, k', b, hb, c, hc, e⟩ := h
    cases e
    have hrb : r <:+ b := (suffix_of_dropPrefix? hc).trans (List.dropWhile_suffix _)
    have hba : b <:+ a := (suffix_of_readKey hb).trans (List.dropWhile_suffix _)
    exact (hrb.trans hba).trans (suffix_of_dropPrefix? ha)
  | dollar =>
    simp only [readToken, Option.bind_eq_bind, Option.bind_eq_some_iff, Prod.exists] at h
    obtain ⟨a, ha, k', b, hb, c, hc, e⟩ := h
    cases e
    have hrb : r <:+ b := suffix_of_dropPrefix? hc
    exact (hrb.trans (suffix_of_readKey hb)).trans (suffix_of_dropPrefix? ha)

/-- The tokens of a text, and the characters between them. -/
def pieces (f : TokenForm) (s : List Char) : List TextPiece :=
  match _h : readToken f s with
  | some (key, rest) =>
    .token (String.ofList key) (s.take (s.length - rest.length)) :: pieces f rest
  | none =>
    match s with
    | [] => []
    | c :: s => .char c :: pieces f s
termination_by s.length
decreasing_by
  · exact readToken_length (by assumption)
  · simp

/-- The keys of the tokens of a text. -/
def keys (f : TokenForm) (text : String) : List String :=
  (f.pieces text.toList).filterMap TextPiece.key?

theorem pieces_token (h : readToken f s = some (k, r)) :
    f.pieces s = .token (String.ofList k) (s.take (s.length - r.length)) :: f.pieces r := by
  rw [pieces]
  split
  · next h' =>
    cases h.symm.trans h'
    rfl
  · next h' => cases h.symm.trans h'

theorem pieces_nil (h : readToken f [] = none) : f.pieces [] = [] := by
  rw [pieces]
  split
  · next h' => cases h.symm.trans h'
  · rfl

theorem pieces_char {c : Char} (h : readToken f (c :: s) = none) :
    f.pieces (c :: s) = .char c :: f.pieces s := by
  rw [pieces]
  split
  · next h' => cases h.symm.trans h'
  · rfl

/-- The pieces of a text make up the text. -/
theorem flatMap_text_pieces (f : TokenForm) (s : List Char) :
    (f.pieces s).flatMap TextPiece.text = s := by
  induction s using pieces.induct f with
  | case1 s key rest h ih =>
    obtain ⟨front, rfl⟩ := suffix_of_readToken h
    rw [pieces_token h, List.flatMap_cons, ih, TextPiece.text, List.length_append,
      Nat.add_sub_cancel, List.take_left]
  | case2 h => rw [pieces_nil h, List.flatMap_nil]
  | case3 c s h ih =>
    rw [pieces_char h, List.flatMap_cons, ih]
    rfl

theorem readToken_nil (f : TokenForm) : readToken f [] = none := by
  cases f <;> rfl

/-- A text without tokens is made of characters only. -/
theorem pieces_of_not_isIn (h : f.isIn s = false) : f.pieces s = s.map TextPiece.char := by
  induction s with
  | nil => exact pieces_nil (readToken_nil f)
  | cons c s ih =>
    rw [isIn, Bool.or_eq_false_iff, Option.isSome_eq_false_iff, Option.isNone_iff_eq_none] at h
    rw [pieces_char h.1, ih h.2, List.map_cons]

/-- Filling goes piece by piece. -/
theorem fill_eq_flatMap (f : TokenForm) (scope : Scope) (s : List Char) :
    f.fill (fun key => (scope.get? (String.ofList key)).map String.toList) s =
      (f.pieces s).flatMap (TextPiece.fill scope) := by
  induction s using pieces.induct f with
  | case1 s key rest h ih =>
    rw [pieces_token h, List.flatMap_cons, ← ih, fill]
    split
    · next h' =>
      cases h.symm.trans h'
      rw [TextPiece.fill]
      cases scope.get? (String.ofList key) <;> rfl
    · next h' => cases h.symm.trans h'
  | case2 h =>
    rw [pieces_nil h, List.flatMap_nil, fill]
    split
    · next h' => cases h.symm.trans h'
    · rfl
  | case3 c s h ih =>
    rw [pieces_char h, List.flatMap_cons, ← ih, fill]
    split
    · next h' => cases h.symm.trans h'
    · rfl

end TokenForm

namespace Scope

variable {f : TokenForm} {text : String} {a b : Scope}

/-- What a text comes to, piece by piece. Without any bindings, and without tokens, it is the text
itself, as it is then left as it stands. -/
theorem toList_fillTokens (scope : Scope) (f : TokenForm) (text : String) :
    (scope.fillTokens f text).toList =
      (f.pieces text.toList).flatMap (TextPiece.fill scope) := by
  unfold fillTokens
  split
  · next h =>
    have hsame : TextPiece.fill scope = TextPiece.text :=
      funext (TextPiece.fill_of_isEmpty h)
    rw [hsame, TokenForm.flatMap_text_pieces]
  · split
    · rw [String.toList_ofList, TokenForm.fill_eq_flatMap]
    · next h =>
      rw [TokenForm.pieces_of_not_isIn (Bool.eq_false_iff.2 h), List.flatMap_map]
      exact (List.flatMap_singleton' _).symm

/-- A scope is read at the keys of the tokens of a text only. -/
theorem fillTokens_congr (h : ∀ key ∈ f.keys text, a.get? key = b.get? key) :
    a.fillTokens f text = b.fillTokens f text := by
  refine String.toList_injective ?_
  rw [toList_fillTokens, toList_fillTokens]
  refine List.flatMap_congr fun p hp => TextPiece.fill_congr fun key hkey => ?_
  exact h key (List.mem_filterMap.2 ⟨p, hp, hkey⟩)

end Scope

end ContextCompiler
