import Mathlib.Data.List.TakeDrop
import ContextCompiler.Proofs.Url.Authority

/-!
What a relative text leaves of its base.

A relative text gives a URL anew from an authority on, or the URL has scheme and authority of its
base, and its path, query and fragment have no more text than those of the base and the escaped
text together (`Extends`).
-/

namespace ContextCompiler

namespace Url

variable {scheme s : List Char} {authority : Option Authority} {base u : Url}
  {names : List (List Char)}

/-! ## The length of paths -/

/-- `u` has scheme and authority of `base`, and its other parts hold no more than those of `base`
and `n` escaped characters. -/
structure Extends (base : Url) (n : Nat) (u : Url) : Prop where
  scheme : u.scheme = base.scheme
  authority : u.authority = base.authority
  path : u.path = base.path ∨ ∃ names, u.path = .segments names
  path_length : (UrlPath.toChars u.path).length ≤
    (UrlPath.toChars base.path).length + 12 * (n + 1)
  query : u.query = base.query ∨ ∀ q, u.query = some q → q.length ≤ 12 * n
  fragment : ∀ f, u.fragment = some f → f.length ≤ 12 * n

/-- The number of characters of an optional part with its mark. -/
def markedLength (part : Option (List Char)) : Nat := (part.map (·.length + 1)).getD 0

theorem length_wholeChars {a : Authority} (h : u.authority = some a) :
    u.wholeChars.length = u.scheme.length + 3 + (authorityChars a).length +
      (UrlPath.toChars u.path).length + markedLength u.query := by
  unfold wholeChars headChars markedLength
  rw [h]
  cases u.query <;> simp <;> omega

theorem length_toString :
    u.toString.length = u.wholeChars.length + markedLength u.fragment := by
  unfold toString markedLength
  rw [String.length_ofList, List.length_append]
  cases u.fragment with
  | none => rfl
  | some f => rfl

/-- The text of a URL that extends a base is not much longer than that of the base. -/
theorem Extends.length_le {n : Nat} {a : Authority} (h : Extends base n u)
    (ha : base.authority = some a) :
    u.toString.length ≤ base.wholeChars.length + 36 * (n + 1) := by
  have hpath := h.path_length
  have hmarked : ∀ part : Option (List Char), (∀ t, part = some t → t.length ≤ 12 * n) →
      markedLength part ≤ 12 * n + 1 := by
    intro part hpart
    cases part with
    | none => exact Nat.zero_le _
    | some t => exact Nat.succ_le_succ (hpart t rfl)
  have hfragment := hmarked _ h.fragment
  have hquery : markedLength u.query ≤ markedLength base.query + 12 * n + 1 := by
    rcases h.query with hq | hq
    · rw [hq]
      omega
    · have := hmarked _ hq
      omega
  rw [length_toString, length_wholeChars (h.authority.trans ha), length_wholeChars ha, h.scheme]
  omega

end Url

end ContextCompiler
