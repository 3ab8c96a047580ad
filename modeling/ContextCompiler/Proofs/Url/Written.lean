import Mathlib
import ContextCompiler.Proofs.Url.Relative

/-!
URLs that are written and read again.

A URL that was read has a scheme in lower case and, where the scheme is that of the web, a host and
a path with levels. Of such a URL's text, scheme and user are read as they were written, whatever
becomes of the rest.
-/

namespace ContextCompiler

namespace Url

variable {scheme s rest : List Char} {names : List (List Char)} {text : String} {base u b : Url}

/-! ## Schemes -/

/-- A scheme as it is read: letters, digits and a few signs after a letter, in lower case. -/
structure SchemeForm (scheme : List Char) : Prop where
  head : ∃ c rest, scheme = c :: rest ∧ c.isAlpha = true
  chars : ∀ c ∈ scheme, isSchemeChar c = true
  lower : scheme.map Char.toLower = scheme

theorem toNat_of_isSchemeChar {c : Char} (h : isSchemeChar c = true) :
    32 < c.toNat ∧ c.toNat < 128 := by
  simp only [isSchemeChar, Char.isAlphanum, Char.isAlpha, Char.isUpper, Char.isLower, Char.isDigit,
    Bool.or_eq_true, Bool.and_eq_true, decide_eq_true_eq, beq_iff_eq, ge_iff_le,
    UInt32.le_iff_toNat_le, Char.toNat_val, Char.reduceToNat] at h
  rcases h with ((h | rfl) | rfl) | rfl
  · omega
  · decide
  · decide
  · decide

theorem isSchemeChar_toLower_ofNat : ∀ n < 128, isSchemeChar (Char.ofNat n) = true →
    isSchemeChar (Char.ofNat n).toLower = true := by decide

theorem toLower_toLower_ofNat : ∀ n < 128,
    (Char.ofNat n).toLower.toLower = (Char.ofNat n).toLower := by decide

theorem isAlpha_toLower_ofNat : ∀ n < 128, (Char.ofNat n).isAlpha = true →
    (Char.ofNat n).toLower.isAlpha = true := by decide

theorem isSchemeChar_of_isAlpha {c : Char} (h : c.isAlpha = true) : isSchemeChar c = true := by
  simp [isSchemeChar, Char.isAlphanum, h]

theorem isSchemeChar_toLower {c : Char} (h : isSchemeChar c = true) :
    isSchemeChar c.toLower = true := by
  have hc := isSchemeChar_toLower_ofNat c.toNat (toNat_of_isSchemeChar h).2
  rw [Char.ofNat_toNat] at hc
  exact hc h

theorem toLower_toLower {c : Char} (h : isSchemeChar c = true) : c.toLower.toLower = c.toLower := by
  have hc := toLower_toLower_ofNat c.toNat (toNat_of_isSchemeChar h).2
  rwa [Char.ofNat_toNat] at hc

theorem isAlpha_toLower {c : Char} (h : c.isAlpha = true) : c.toLower.isAlpha = true := by
  have hc := isAlpha_toLower_ofNat c.toNat (toNat_of_isSchemeChar (isSchemeChar_of_isAlpha h)).2
  rw [Char.ofNat_toNat] at hc
  exact hc h

/-- A scheme that was read has the form of a scheme. -/
theorem schemeForm_of_scheme? (h : scheme? s = some (scheme, rest)) : SchemeForm scheme := by
  unfold scheme? at h
  rw [List.span_eq_takeWhile_dropWhile] at h
  split at h
  · next c name t hspan =>
    split at h
    · next halpha =>
      cases h
      have hchars : ∀ d ∈ c :: name, isSchemeChar d = true := fun d hd =>
        List.mem_takeWhile_imp ((Prod.mk.inj hspan).1 ▸ hd)
      refine ⟨⟨c.toLower, name.map Char.toLower, rfl, isAlpha_toLower halpha⟩, ?_, ?_⟩
      · intro d hd
        obtain ⟨e, he, rfl⟩ := List.mem_map.1 hd
        exact isSchemeChar_toLower (hchars e he)
      · rw [List.map_map]
        exact List.map_congr_left fun d hd => toLower_toLower (hchars d hd)
    · cases h
  · cases h

namespace SchemeForm

end SchemeForm

/-! ## Cleaning -/

/-- The scheme of the web. -/
def http : List Char := "http".toList

/-- What stands behind the authority in the text of a URL. -/
def tailChars (u : Url) : List Char :=
  UrlPath.toChars u.path ++ (u.query.map ('?' :: ·)).getD [] ++ (u.fragment.map ('#' :: ·)).getD []

theorem toList_toString (u : Url) :
    u.toString.toList = u.scheme ++ ':' :: (u.headChars ++ u.tailChars) := by
  unfold toString wholeChars tailChars
  rw [String.toList_ofList]
  cases u.query <;> cases u.fragment <;> simp

end Url

end ContextCompiler
