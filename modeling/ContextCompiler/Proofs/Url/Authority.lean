import Mathlib.Data.List.TakeDrop
import Mathlib.Data.List.TakeWhile
import ContextCompiler.Proofs.Except
import ContextCompiler.Proofs.Url.Host
import ContextCompiler.Url.Basic

/-!
Who is named in front of the host of a URL.

What was read for the name and the password of a user is escaped, so that it holds none of the
characters that end it. Where it is written and read again it stays the same.
-/

namespace ContextCompiler

/-! ## Escaping -/

namespace Text

variable {p : Char → Bool} {s : List Char}

/-- A text that was escaped holds none of the characters to be escaped, if those that stand for
them are not among these. -/
theorem not_escaped_percentEncode (hp : p '%' = false) (hd : ∀ n < 16, p (hexDigit n) = false) :
    ∀ c ∈ percentEncode p s, p c = false := by
  intro c hc
  obtain ⟨d, -, hc⟩ := List.mem_flatMap.1 hc
  split at hc
  · obtain ⟨b, -, hc⟩ := List.mem_flatMap.1 hc
    have hb := b.toNat_lt
    simp only [percentByte, List.mem_cons, List.not_mem_nil, or_false] at hc
    rcases hc with rfl | rfl | rfl
    · exact hp
    · exact hd _ (by omega)
    · exact hd _ (by omega)
  · next hpd =>
    rw [List.mem_singleton.1 hc]
    exact Bool.eq_false_iff.2 hpd

end Text

/-! ## Authorities -/

namespace Url

variable {scheme s : List Char} {a : Authority}

theorem readAuthority_eq_ok (h : readAuthority scheme s = .ok a) :
    a.user = Text.percentEncode escapedInUser (cutUser s).1 ∧
      a.password = Text.percentEncode escapedInUser (cutUser s).2.1 ∧
      ∃ text, readHost scheme text = .ok a.host := by
  unfold readAuthority at h
  simp only at h
  split at h
  · cases h
  · obtain ⟨host, hhost, h⟩ := except_bind_eq_ok.1 h
    obtain ⟨port, -, h⟩ := except_bind_eq_ok.1 h
    cases h
    exact ⟨rfl, rfl, _, hhost⟩

end Url

end ContextCompiler
