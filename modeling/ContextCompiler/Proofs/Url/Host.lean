import ContextCompiler.Url.Host

/-!
The characters of hosts.

A name that was read holds none of the characters that names must not hold, although labels in
other scripts are put into ASCII only after this was checked: what is written for such a label are
its own ASCII characters, letters, digits and hyphens. So the text of a host ends no part of a URL
before its time.
-/

namespace ContextCompiler

/-! ## Labels in ASCII -/

namespace Punycode

theorem toNat_ofNat {n : Nat} (h : n.isValidChar) : (Char.ofNat n).toNat = n := by
  rw [Char.ofNat, dif_pos h]
  rfl

/-- The ASCII characters of a text that is being read are among those it started with. -/
structure Reading.Grounded (basic : List Char) (r : Reading) : Prop where
  code : 128 ≤ r.code
  mem : ∀ c ∈ r.out, c.toNat < 128 → c ∈ basic

namespace Reading.Grounded

variable {basic : List Char} {r r' : Reading}

theorem insert {delta : Nat} (h : r.Grounded basic) (hr : insert? r delta = some r') :
    r'.Grounded basic := by
  unfold insert? at hr
  simp only at hr
  split at hr
  · next hvalid =>
    cases hr
    have hcode : 128 ≤ r.code + (r.place + delta) / (r.out.length + 1) :=
      Nat.le_trans h.code (Nat.le_add_right _ _)
    refine ⟨hcode, fun c hc hlt => ?_⟩
    rcases List.mem_append.1 hc with hc | hc
    · exact h.mem c (List.mem_of_mem_take hc) hlt
    · rcases List.mem_cons.1 hc with rfl | hc
      · rw [toNat_ofNat hvalid] at hlt
        exact absurd hlt (Nat.not_lt.2 hcode)
      · exact h.mem c (List.mem_of_mem_drop hc) hlt
  · cases hr

theorem step {c : Char} (h : r.Grounded basic) (hr : readStep? r c = some r') :
    r'.Grounded basic := by
  obtain ⟨d, -, hr⟩ := Option.bind_eq_some_iff.1 hr
  simp only at hr
  split at hr
  · exact h.insert hr
  · cases hr
    exact ⟨h.code, h.mem⟩

theorem steps {digits : List Char} (h : r.Grounded basic)
    (hr : digits.foldlM readStep? r = some r') : r'.Grounded basic := by
  induction digits generalizing r with
  | nil =>
    cases hr
    exact h
  | cons c digits ih =>
    rw [List.foldlM_cons] at hr
    obtain ⟨r₁, h₁, hr⟩ := Option.bind_eq_some_iff.1 hr
    exact ih (h.step h₁) hr

end Reading.Grounded

/-- Reading a label adds no ASCII characters. -/
theorem mem_of_decode? {s label : List Char} {c : Char} (h : decode? s = some label)
    (hc : c ∈ label) (hlt : c.toNat < 128) : c ∈ s := by
  have hbasic : ∀ c ∈ ((Text.splitLast ['-'] s).getD ([], s)).1, c ∈ s := by
    intro c hc
    cases hs : Text.splitLast ['-'] s with
    | none =>
      rw [hs] at hc
      exact absurd hc List.not_mem_nil
    | some parts =>
      rw [hs] at hc
      rw [Text.splitLast_eq_some hs]
      exact List.mem_append_left _ (List.mem_append_left _ hc)
  simp only [decode?, Option.bind_eq_bind, Option.bind_none, Option.ite_none_left_eq_some] at h
  obtain ⟨-, -, h⟩ := h
  obtain ⟨r, hr, h⟩ := Option.bind_eq_some_iff.1 h
  obtain ⟨-, e⟩ := Option.ite_none_right_eq_some.1 h
  cases e
  have hstart : Reading.Grounded ((Text.splitLast ['-'] s).getD ([], s)).1
      ⟨((Text.splitLast ['-'] s).getD ([], s)).1, 128, 0, 72, 0, 36, 1⟩ :=
    ⟨Nat.le_refl _, fun _ h _ => h⟩
  exact hbasic c ((hstart.steps hr).mem c hc hlt)

theorem isForbidden_digit : ∀ n < 36, Label.isForbidden (digit n) = false := by decide

end Punycode

namespace Label

/-- A text without characters that names must not hold. -/
def Plain (s : List Char) : Prop := ∀ c ∈ s, isForbidden c = false

namespace Plain

theorem append {s t : List Char} (hs : Plain s) (ht : Plain t) : Plain (s ++ t) := fun c hc =>
  (List.mem_append.1 hc).elim (hs c) (ht c)

theorem deltaDigits (bias k q : Nat) : Plain (Punycode.deltaDigits bias k q) := by
  fun_induction Punycode.deltaDigits bias k q with
  | case1 k q t hlt =>
    have ht := Punycode.threshold_le k bias
    intro c hc
    rw [List.mem_singleton.1 hc]
    exact Punycode.isForbidden_digit q (by omega)
  | case2 k q t hlt ih =>
    have ht := Punycode.threshold_le k bias
    have hmod := Nat.mod_lt (q - t) (show 0 < 36 - t by omega)
    intro c hc
    rcases List.mem_cons.1 hc with rfl | hc
    · exact Punycode.isForbidden_digit _ (by omega)
    · exact ih c hc

theorem writeStep {st : Punycode.Writing} (h : Plain st.out) (basic m : Nat) (c : Char) :
    Plain (Punycode.writeStep basic m st c).out := by
  unfold Punycode.writeStep
  split
  · exact h
  · split
    · exact h.append (deltaDigits _ _ _)
    · exact h

theorem writeSteps {st : Punycode.Writing} (h : Plain st.out) (basic m : Nat) (label : List Char) :
    Plain (label.foldl (Punycode.writeStep basic m) st).out := by
  induction label generalizing st with
  | nil => exact h
  | cons c label ih => exact ih (h.writeStep basic m c)

theorem writeCodes {st : Punycode.Writing} (h : Plain st.out) (label : List Char) (basic n : Nat)
    (codes : List Nat) : Plain (Punycode.writeCodes label basic codes n st).out := by
  induction codes generalizing n st with
  | nil => exact h
  | cons m rest ih =>
    unfold Punycode.writeCodes
    apply ih
    apply writeSteps
    exact h

/-- What is written for a label are its own ASCII characters, letters, digits and hyphens. -/
theorem encode {label : List Char} (h : ∀ c ∈ label, c.toNat < 128 → isForbidden c = false) :
    Plain (Punycode.encode label) := by
  have hbasic : Plain (label.filter (·.toNat < 128)) := fun c hc =>
    h c (List.mem_filter.1 hc).1 (of_decide_eq_true (List.mem_filter.1 hc).2)
  refine writeCodes ?_ _ _ _ _
  split
  · exact fun _ hc => absurd hc List.not_mem_nil
  · refine hbasic.append fun c hc => ?_
    rw [List.mem_singleton.1 hc]
    decide

end Plain

/-! ## Names -/

theorem mem_of_readEncoded? {s label : List Char} {c : Char} (h : readEncoded? s = some label)
    (hc : c ∈ label) (hlt : c.toNat < 128) : c ∈ s := by
  simp only [readEncoded?, Option.bind_eq_bind, Option.bind_none] at h
  split at h
  · cases h
  · obtain ⟨label', hd, h⟩ := Option.bind_eq_some_iff.1 h
    obtain ⟨-, h⟩ := Option.ite_none_left_eq_some.1 h
    obtain ⟨-, e⟩ := Option.ite_none_left_eq_some.1 h
    cases e
    exact Punycode.mem_of_decode? hd hc hlt

/-- The ASCII characters of a label that was read are those it was written with. -/
theorem mem_of_read? {s label : List Char} {c : Char} (h : read? s = some label) (hc : c ∈ label)
    (hlt : c.toNat < 128) : c ∈ s := by
  simp only [read?, Option.bind_eq_bind, Option.bind_none] at h
  split at h
  · next t ht =>
    obtain ⟨label', hd, h⟩ := Option.bind_eq_some_iff.1 h
    obtain ⟨-, e⟩ := Option.ite_none_left_eq_some.1 h
    cases e
    rw [Text.dropPrefix?_eq_some_iff.1 ht]
    exact List.mem_append_right _ (mem_of_readEncoded? hd hc hlt)
  · obtain ⟨-, e⟩ := Option.ite_none_left_eq_some.1 h
    cases e
    exact hc

theorem Plain.toAscii? {label s : List Char}
    (h : ∀ c ∈ label, c.toNat < 128 → isForbidden c = false) (hs : toAscii? label = some s) :
    Plain s := by
  unfold Label.toAscii? at hs
  split at hs
  · next hall =>
    cases hs
    exact fun c hc => h c hc (of_decide_eq_true (List.all_eq_true.1 hall c hc))
  · split at hs
    · cases hs
    · cases hs
      have hmark : ∀ c ∈ mark, isForbidden c = false := by
        simpa using List.all_eq_true.1 (show mark.all (!isForbidden ·) = true by decide)
      exact Plain.append hmark (.encode h)

theorem mem_of_mapM {α β : Type} {f : α → Option β} {xs : List α} {ys : List β}
    (h : xs.mapM f = some ys) {y : β} (hy : y ∈ ys) : ∃ x ∈ xs, f x = some y := by
  induction xs generalizing ys with
  | nil =>
    cases h
    exact absurd hy List.not_mem_nil
  | cons x xs ih =>
    rw [List.mapM_cons] at h
    obtain ⟨z, hz, h⟩ := Option.bind_eq_some_iff.1 h
    obtain ⟨zs, hzs, h⟩ := Option.bind_eq_some_iff.1 h
    cases h
    rcases List.mem_cons.1 hy with rfl | hy
    · exact ⟨x, List.mem_cons_self, hz⟩
    · obtain ⟨x', hx', hf⟩ := ih hzs hy
      exact ⟨x', List.mem_cons_of_mem _ hx', hf⟩

/-- A name in ASCII holds no forbidden characters. -/
theorem plain_of_asciiName? {s name : List Char} (h : asciiName? s = some name) : Plain name := by
  simp only [asciiName?, Option.bind_eq_bind, Option.bind_none, Option.bind_eq_some_iff,
    Option.ite_none_left_eq_some] at h
  obtain ⟨t, -, hplain, labels, hlabels, -, parts, hparts, e⟩ := h
  cases e
  intro c hc
  rcases Text.mem_joinWith hc with hc | ⟨part, hpart, hc⟩
  · rw [List.mem_singleton.1 hc]
    decide
  · obtain ⟨label, hlabel, hascii⟩ := mem_of_mapM hparts hpart
    obtain ⟨piece, hpiece, hread⟩ := mem_of_mapM hlabels hlabel
    refine Plain.toAscii? (fun c hc hlt => ?_) hascii c hc
    have hmem := Text.mem_of_mem_splitOn hpiece (mem_of_read? hread hc hlt)
    rw [List.any_eq_true, not_exists] at hplain
    exact Bool.eq_false_iff.2 fun e => hplain c ⟨hmem, e⟩

end Label

/-! ## Hosts -/

namespace Host

/-- Whether a character may stand in the text of a host: it is no blank, and ends neither the host
nor what stands before it. -/
def isPlainChar (c : Char) : Bool := 0x20 < c.toNat && !"/\\?#@".toList.contains c

theorem isPlainChar_of_label {c : Char} (h : Label.isForbidden c = false) :
    isPlainChar c = true := by
  simp [Label.isForbidden] at h
  simp [isPlainChar, h]

theorem isPlainChar_of_isDigit {c : Char} (h : c.isDigit = true) : isPlainChar c = true := by
  simp only [Char.isDigit, Bool.and_eq_true, decide_eq_true_eq, UInt32.le_iff_toNat_le] at h
  have hge : 48 ≤ c.toNat := h.1
  have hle : c.toNat ≤ 57 := h.2
  have hne : ∀ d : Char, d.toNat < 48 ∨ 57 < d.toNat → c ≠ d := by
    rintro d hd rfl
    omega
  have hlt : 0x20 < c.toNat := by omega
  simp [isPlainChar, hlt, hne '/' (by decide), hne '\\' (by decide), hne '?' (by decide),
    hne '#' (by decide), hne '@' (by decide)]

theorem isPlainChar_toString (n : Nat) : ∀ c ∈ (toString n).toList, isPlainChar c = true := by
  intro c hc
  rw [Nat.toString_eq_repr, Nat.repr, String.toList_ofList] at hc
  exact isPlainChar_of_isDigit (Nat.isDigit_of_mem_toDigits (by decide) (by decide) hc)

theorem isPlainChar_digitChar : ∀ n < 16, isPlainChar n.digitChar = true := by decide

theorem isPlainChar_hexNumber (n : Nat) : ∀ c ∈ hexNumber n, isPlainChar c = true := by
  unfold hexNumber
  induction n using Nat.strongRecOn with
  | _ n ih =>
    by_cases hn : n < 16
    · rw [Nat.toDigits_of_lt_base hn]
      intro c hc
      rw [List.mem_singleton.1 hc]
      exact isPlainChar_digitChar n hn
    · have hmod := Nat.mod_lt n (show 0 < 16 by decide)
      have hdigits := Nat.toDigits_append_toDigits (b := 16) (by decide)
        (show 0 < n / 16 by omega) hmod
      rw [Nat.div_add_mod] at hdigits
      rw [← hdigits]
      intro c hc
      rcases List.mem_append.1 hc with hc | hc
      · exact ih (n / 16) (by omega) c hc
      · rw [Nat.toDigits_of_lt_base hmod, List.mem_singleton] at hc
        rw [hc]
        exact isPlainChar_digitChar _ hmod

theorem isPlainChar_joinWith {sep : List Char} {parts : List (List Char)}
    (hsep : ∀ c ∈ sep, isPlainChar c = true) (hparts : ∀ p ∈ parts, ∀ c ∈ p, isPlainChar c = true) :
    ∀ c ∈ Text.joinWith sep parts, isPlainChar c = true := by
  intro c hc
  rcases Text.mem_joinWith hc with hc | ⟨p, hp, hc⟩
  · exact hsep c hc
  · exact hparts p hp c hc

/-- A text that can stand for a host in a URL. -/
def PlainText (s : List Char) : Prop := s ≠ [] ∧ ∀ c ∈ s, isPlainChar c = true

theorem plainText_address4 (n : Nat) : PlainText (address4 n).toChars := by
  refine ⟨by simp [toChars, Text.joinWith], ?_⟩
  refine isPlainChar_joinWith (List.all_eq_true.1 (by decide)) fun p hp => ?_
  obtain ⟨b, -, rfl⟩ := List.mem_map.1 hp
  exact isPlainChar_toString b

theorem plainText_address6 (pieces : List Nat) : PlainText (address6 pieces).toChars := by
  have hshow : ∀ ps : List Nat, ∀ c ∈ Text.joinWith [':'] (ps.map hexNumber),
      isPlainChar c = true := fun ps =>
    isPlainChar_joinWith (List.all_eq_true.1 (by decide)) fun p hp => by
      obtain ⟨n, -, rfl⟩ := List.mem_map.1 hp
      exact isPlainChar_hexNumber n
  refine ⟨by simp [toChars], fun c hc => ?_⟩
  simp only [toChars, List.mem_append, List.mem_singleton] at hc
  rcases hc with (rfl | hc) | rfl
  · decide
  · split at hc
    · simp only [List.mem_append, List.mem_cons, List.not_mem_nil, or_false] at hc
      rcases hc with (hc | rfl | rfl) | hc
      · exact hshow _ c hc
      · decide
      · decide
      · exact hshow _ c hc
    · exact hshow _ c hc
  · decide

theorem plainText_of_address4? {s : List Char} {h : Host} (hh : address4? s = some h) :
    PlainText h.toChars := by
  simp only [address4?, Option.bind_eq_bind, Option.bind_none] at hh
  obtain ⟨-, hh⟩ := Option.ite_none_left_eq_some.1 hh
  obtain ⟨numbers, -, hh⟩ := Option.bind_eq_some_iff.1 hh
  obtain ⟨last, -, hh⟩ := Option.bind_eq_some_iff.1 hh
  obtain ⟨-, hh⟩ := Option.ite_none_left_eq_some.1 hh
  obtain ⟨-, hh⟩ := Option.ite_none_left_eq_some.1 hh
  cases hh
  exact plainText_address4 _

theorem plainText_of_address6? {s : List Char} {h : Host} (hh : address6? s = some h) :
    PlainText h.toChars := by
  unfold address6? at hh
  split at hh
  · obtain ⟨pieces, -, hh⟩ := Option.bind_eq_some_iff.1 hh
    obtain ⟨-, e⟩ := Option.ite_none_right_eq_some.1 hh
    cases e
    exact plainText_address6 _
  · obtain ⟨before, -, hh⟩ := Option.bind_eq_some_iff.1 hh
    obtain ⟨after, -, hh⟩ := Option.bind_eq_some_iff.1 hh
    obtain ⟨-, e⟩ := Option.ite_none_left_eq_some.1 hh
    cases e
    exact plainText_address6 _

theorem plainText_of_bracketed? {s : List Char} {h : Host} (hh : bracketed? s = .ok h) :
    PlainText h.toChars := by
  unfold bracketed? at hh
  split at hh
  · split at hh
    · next ha =>
      cases hh
      exact plainText_of_address6? ha
    · cases hh
  · cases hh

/-- The host of a URL of a well-known scheme has a text of plain characters. -/
theorem plainText_of_read {s : List Char} {h : Host} (hh : read s = .ok h) :
    PlainText h.toChars := by
  unfold read at hh
  split at hh
  · exact plainText_of_bracketed? hh
  · split at hh
    · cases hh
    · cases hh
    · next name hne hname =>
      split at hh
      · split at hh
        · next ha =>
          cases hh
          exact plainText_of_address4? ha
        · cases hh
      · cases hh
        exact ⟨hne, fun c hc => isPlainChar_of_label (Label.plain_of_asciiName? hname c hc)⟩

end Host

end ContextCompiler
