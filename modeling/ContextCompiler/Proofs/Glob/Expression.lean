import ContextCompiler.Glob.Pattern
import ContextCompiler.Proofs.Glob.Match

/-!
What the regular expression of a pattern looks like.

Replacing acts on the tokens of a pattern as it does on its text: a wildcard that is looked for is
found only where the tokens have it, as no escaped character looks like a part of one.
-/

namespace ContextCompiler

/-! ## Replacing -/

namespace Text

variable {p r s front : List Char} {c : Char}

theorem length_lt_of_dropPrefix? (hp : p ≠ []) {rest : List Char}
    (h : dropPrefix? p s = some rest) : rest.length < s.length := by
  rw [dropPrefix?_eq_some_iff.1 h, List.length_append]
  exact Nat.lt_add_of_pos_left (List.length_pos_iff.2 hp)

theorem replaceAllAux_eq (hp : p ≠ []) {n m : Nat} (hn : s.length < n) (hm : s.length < m) :
    replaceAllAux p r n s = replaceAllAux p r m s := by
  induction n generalizing m s with
  | zero => cases hn
  | succ n ih =>
    cases m with
    | zero => cases hm
    | succ m =>
      cases s with
      | nil => rfl
      | cons c s =>
        rw [replaceAllAux, replaceAllAux]
        split
        · next rest hrest =>
          have hlength := length_lt_of_dropPrefix? hp hrest
          rw [ih (Nat.lt_of_lt_of_le hlength (Nat.le_of_lt_succ hn))
            (Nat.lt_of_lt_of_le hlength (Nat.le_of_lt_succ hm))]
        · rw [ih (Nat.lt_of_succ_lt_succ hn) (Nat.lt_of_succ_lt_succ hm)]

theorem replaceAll_nil (p r : List Char) : replaceAll p r [] = [] := by
  rw [replaceAll]
  split <;> rfl

theorem replaceAll_cons (hp : p ≠ []) (h : ¬ p <+: c :: s) :
    replaceAll p r (c :: s) = c :: replaceAll p r s := by
  have hne : p.isEmpty = false := List.isEmpty_eq_false_iff.2 hp
  have hnone : dropPrefix? p (c :: s) = none := by
    rw [Option.eq_none_iff_forall_ne_some]
    intro rest hrest
    exact h ⟨rest, (dropPrefix?_eq_some_iff.1 hrest).symm⟩
  rw [replaceAll, replaceAll, hne, if_neg Bool.false_ne_true, if_neg Bool.false_ne_true,
    replaceAllAux, hnone]
  rfl

theorem replaceAll_append (hp : p ≠ []) (r s : List Char) :
    replaceAll p r (p ++ s) = r ++ replaceAll p r s := by
  have hne : p.isEmpty = false := List.isEmpty_eq_false_iff.2 hp
  obtain ⟨c, p', rfl⟩ := List.exists_cons_of_ne_nil hp
  have hdrop : dropPrefix? (c :: p') (c :: p' ++ s) = some s := dropPrefix?_eq_some_iff.2 rfl
  rw [List.cons_append] at hdrop ⊢
  rw [replaceAll, replaceAll, hne, if_neg Bool.false_ne_true, if_neg Bool.false_ne_true,
    replaceAllAux, hdrop]
  dsimp only
  rw [replaceAllAux_eq hp _ (Nat.lt_succ_self s.length)]
  simp only [List.length_cons, List.length_append]
  omega

/-- A front in which the text is found nowhere is taken over. -/
theorem replaceAll_front (hp : p ≠ []) (h : ∀ b, b <:+ front → b ≠ [] → ¬ p <+: b ++ s) :
    replaceAll p r (front ++ s) = front ++ replaceAll p r s := by
  induction front with
  | nil => rfl
  | cons c front ih =>
    have hnot := h _ (List.suffix_refl _) (List.cons_ne_nil _ _)
    rw [List.cons_append] at hnot ⊢
    rw [replaceAll_cons hp hnot, ih fun b hb => h b (hb.trans (List.suffix_cons c front))]
    rfl

end Text

/-! ## Tokens in an expression -/

namespace GlobToken

open Glob

variable {c x : Char} {t u : GlobToken} {ts us qs : List GlobToken} {s : List Char}

/-- How a token is written in a regular expression. -/
def fragment : GlobToken → List Char
  | lit c => escaped c
  | one => "[^/]".toList
  | run => "[^/]*".toList
  | deep => ".*".toList
  | deepSlash => "(?:.*/)?".toList

theorem escaped_of_sign (h : c ∈ regexSigns) : escaped c = ['\\', c] := by
  rw [escaped, if_pos (List.contains_iff_mem.2 h)]

theorem escaped_of_not_sign (h : c ∉ regexSigns) : escaped c = [c] := by
  rw [escaped, if_neg (by rwa [List.contains_iff_mem])]

theorem fragment_ne_nil (t : GlobToken) : fragment t ≠ [] := by
  cases t with
  | lit c =>
    show escaped c ≠ []
    unfold escaped
    split <;> exact List.cons_ne_nil _ _
  | _ => exact List.cons_ne_nil _ _

/-- An escaped character starts with a backslash, or with itself if it is no sign. -/
theorem eq_or_not_sign_of_escaped {f : Char} (h : escaped c <+: f :: s) :
    f = '\\' ∨ f ∉ regexSigns := by
  by_cases hc : c ∈ regexSigns
  · rw [escaped_of_sign hc, List.cons_prefix_cons] at h
    exact .inl h.1.symm
  · rw [escaped_of_not_sign hc, List.cons_prefix_cons] at h
    exact .inr (h.1 ▸ hc)

/-- An escaped character is the start of no other token. -/
theorem escaped_prefix_fragment_iff : escaped c <+: fragment t ++ s ↔ t = lit c := by
  constructor
  · intro h
    cases t with
    | lit d =>
      have hslash : '\\' ∈ regexSigns := by decide
      change escaped c <+: escaped d ++ s at h
      by_cases hc : c ∈ regexSigns <;> by_cases hd : d ∈ regexSigns
      · rw [escaped_of_sign hc, escaped_of_sign hd] at h
        simpa [eq_comm] using h
      · rw [escaped_of_sign hc, escaped_of_not_sign hd] at h
        exact absurd ((List.cons_prefix_cons.1 h).1 ▸ hslash) hd
      · rw [escaped_of_not_sign hc, escaped_of_sign hd] at h
        exact absurd ((List.cons_prefix_cons.1 h).1 ▸ hslash) hc
      · rw [escaped_of_not_sign hc, escaped_of_not_sign hd] at h
        rw [(List.cons_prefix_cons.1 h).1]
    | _ => exact absurd (eq_or_not_sign_of_escaped h) (by decide)
  · rintro rfl
    exact List.prefix_append _ _

/-- Characters are found in a written text just where the tokens have them. -/
theorem flatMap_prefix_iff {cs : List Char} :
    (cs.map lit).flatMap fragment <+: ts.flatMap fragment ↔ cs.map lit <+: ts := by
  induction cs generalizing ts with
  | nil => simp
  | cons c cs ih =>
    cases ts with
    | nil => simp [fragment_ne_nil]
    | cons t ts =>
      rw [List.map_cons, List.flatMap_cons, List.flatMap_cons, List.cons_prefix_cons, ← ih]
      constructor
      · intro h
        have ht : t = lit c :=
          escaped_prefix_fragment_iff.1 ((List.prefix_append _ _).trans h)
        rw [ht] at h
        exact ⟨ht.symm, (List.prefix_append_right_inj _).1 h⟩
      · rintro ⟨rfl, h⟩
        exact (List.prefix_append_right_inj _).2 h

/-- Tokens with some of them in a row replaced by one, from left to right. -/
def replace (qs : List GlobToken) (t : GlobToken) : List GlobToken → List GlobToken
  | [] => []
  | u :: us =>
    if qs <+: u :: us then t :: replace qs t (us.drop (qs.length - 1))
    else u :: replace qs t us
termination_by us => us.length
decreasing_by
  · rw [List.length_drop]
    exact Nat.lt_succ_of_le (Nat.sub_le _ _)
  · exact Nat.lt_succ_self _

theorem replace_nil (qs : List GlobToken) (t : GlobToken) : replace qs t [] = [] := by
  rw [replace]

theorem replace_cons (h : ¬ qs <+: u :: us) : replace qs t (u :: us) = u :: replace qs t us := by
  rw [replace, if_neg h]

theorem replace_append (u : GlobToken) (qs : List GlobToken) (t : GlobToken)
    (us : List GlobToken) :
    replace (u :: qs) t (u :: (qs ++ us)) = t :: replace (u :: qs) t us := by
  have hprefix : u :: qs <+: u :: (qs ++ us) := ⟨us, rfl⟩
  rw [replace, if_pos hprefix]
  simp

theorem eq_or_eq_of_wildcard (hx : x ∈ ['*', '?']) : x = '*' ∨ x = '?' := by
  simpa using hx

/-- The signs of wildcards are the start of no token. -/
theorem not_prefix_flatMap (hx : x ∈ ['*', '?']) : ¬ [x] <+: ts.flatMap fragment := by
  have hsign : x ∈ regexSigns ∧ x ≠ '\\' ∧ x ≠ '[' ∧ x ≠ '.' ∧ x ≠ '(' := by
    rcases eq_or_eq_of_wildcard hx with rfl | rfl <;> decide
  obtain ⟨hsign, hslash, hset, hdot, hgroup⟩ := hsign
  cases ts with
  | nil => simp
  | cons t ts =>
    intro h
    rw [List.flatMap_cons] at h
    cases t with
    | lit d =>
      change [x] <+: escaped d ++ _ at h
      by_cases hd : d ∈ regexSigns
      · rw [escaped_of_sign hd] at h
        exact hslash (List.cons_prefix_cons.1 h).1
      · rw [escaped_of_not_sign hd] at h
        exact hd ((List.cons_prefix_cons.1 h).1 ▸ hsign)
    | one => exact hset (List.cons_prefix_cons.1 h).1
    | run => exact hset (List.cons_prefix_cons.1 h).1
    | deep => exact hdot (List.cons_prefix_cons.1 h).1
    | deepSlash => exact hgroup (List.cons_prefix_cons.1 h).1

/-- Inside of a token no wildcard starts. -/
theorem not_prefix_of_suffix (hx : x ∈ ['*', '?']) {b p : List Char} (hb : b <:+ fragment u)
    (hne : b ≠ []) (hinside : b ≠ fragment u) :
    ¬ '\\' :: x :: p <+: b ++ us.flatMap fragment := by
  have hfree : '\\' ∉ (fragment u).tail ∨ fragment u = ['\\', '\\'] := by
    cases u with
    | lit d =>
      change '\\' ∉ (escaped d).tail ∨ escaped d = _
      by_cases hd : d ∈ regexSigns
      · rw [escaped_of_sign hd]
        by_cases hslash : d = '\\'
        · exact .inr (by rw [hslash])
        · exact .inl (by simpa [eq_comm] using hslash)
      · rw [escaped_of_not_sign hd]
        exact .inl (by simp)
    | _ => exact .inl (by decide)
  have htail : b <:+ (fragment u).tail := by
    obtain ⟨a, ha⟩ := hb
    cases a with
    | nil => exact absurd ha hinside
    | cons d a => exact ⟨a, by rw [← ha]; rfl⟩
  obtain ⟨d, b, rfl⟩ := List.exists_cons_of_ne_nil hne
  intro h
  rw [List.cons_append, List.cons_prefix_cons] at h
  obtain ⟨rfl, h⟩ := h
  rcases hfree with hfree | hslash
  · exact hfree (htail.subset List.mem_cons_self)
  · rw [hslash] at htail
    have hnil : b = [] := by simpa using htail.length_le
    rw [hnil, List.nil_append] at h
    exact not_prefix_flatMap hx ((List.prefix_append [x] p).trans h)

/-- A wildcard is replaced in a written text as it is in the tokens. -/
theorem replaceAll_flatMap (hx : x ∈ ['*', '?']) (cs : List Char) (t : GlobToken)
    (ts : List GlobToken) :
    Text.replaceAll (((x :: cs).map lit).flatMap fragment) (fragment t) (ts.flatMap fragment) =
      (replace ((x :: cs).map lit) t ts).flatMap fragment := by
  have hsign : x ∈ regexSigns := by
    rcases eq_or_eq_of_wildcard hx with rfl | rfl <;> decide
  have hp : ((x :: cs).map lit).flatMap fragment =
      '\\' :: x :: (cs.map lit).flatMap fragment := by
    rw [List.map_cons, List.flatMap_cons]
    show escaped x ++ _ = _
    rw [escaped_of_sign hsign]
    rfl
  have hne : ((x :: cs).map lit).flatMap fragment ≠ [] := by
    rw [hp]
    exact List.cons_ne_nil _ _
  fun_induction replace ((x :: cs).map lit) t ts with
  | case1 => exact Text.replaceAll_nil _ _
  | case2 u us hprefix ih =>
    obtain ⟨rest, hrest⟩ := hprefix
    have hdrop : us.drop (((x :: cs).map lit).length - 1) = rest := by
      rw [List.map_cons, List.cons_append] at hrest
      rw [← (List.cons.inj hrest).2]
      simp
    rw [hdrop] at ih
    rw [hdrop, ← hrest, List.flatMap_append, Text.replaceAll_append hne, ih, List.flatMap_cons]
  | case3 u us hprefix ih =>
    rw [List.flatMap_cons, List.flatMap_cons, ← ih]
    refine Text.replaceAll_front hne fun b hb hb' => ?_
    by_cases hinside : b = fragment u
    · rw [hinside, ← List.flatMap_cons, flatMap_prefix_iff]
      exact hprefix
    · rw [hp]
      exact not_prefix_of_suffix hx hb hb' hinside

/-! ## The tokens of a pattern -/

/-- The token that is marked. -/
def ofMark : Option Char → GlobToken
  | none => deepSlash
  | some c => lit c

theorem map_markDeepSlash (cs : List Char) :
    (markDeepSlash cs).map ofMark =
      replace [lit '*', lit '*', lit '/'] deepSlash (cs.map lit) := by
  fun_induction markDeepSlash cs with
  | case1 => exact (replace_nil _ _).symm
  | case2 a =>
    rw [List.map_singleton, List.map_singleton, replace_cons (by simp), replace_nil]
    rfl
  | case3 a b =>
    rw [List.map_cons, List.map_singleton, List.map_cons, List.map_singleton,
      replace_cons (by simp), replace_cons (by simp), replace_nil]
    rfl
  | case4 a b c cs h ih =>
    simp only [Bool.and_eq_true, beq_iff_eq] at h
    obtain ⟨⟨rfl, rfl⟩, rfl⟩ := h
    rw [List.map_cons, ih]
    exact (replace_append (lit '*') [lit '*', lit '/'] deepSlash (cs.map lit)).symm
  | case5 a b c cs h ih =>
    have hprefix : ¬ [lit '*', lit '*', lit '/'] <+: (a :: b :: c :: cs).map lit := by
      simp only [Bool.and_eq_true, beq_iff_eq] at h
      simp only [List.map_cons, List.cons_prefix_cons, lit.injEq, List.nil_prefix, and_true]
      rintro ⟨rfl, rfl, rfl⟩
      exact h ⟨⟨rfl, rfl⟩, rfl⟩
    have hstep := replace_cons (t := deepSlash) hprefix
    rw [List.map_cons, ih]
    exact hstep.symm

/-- Replacing one token is done to each token alone. -/
theorem replace_singleton (u t : GlobToken) (ts : List GlobToken) :
    replace [u] t ts = ts.map fun v => if v = u then t else v := by
  induction ts with
  | nil => rw [replace_nil, List.map_nil]
  | cons v ts ih =>
    by_cases hv : v = u
    · subst hv
      rw [List.map_cons, if_pos rfl, ← ih]
      exact replace_append v [] t ts
    · rw [replace_cons, ih, List.map_cons, if_neg hv]
      simpa [eq_comm] using hv

/-- A token that is left when all wildcards are replaced. -/
def settle (t : GlobToken) : GlobToken :=
  if t = lit '*' then run else if t = lit '?' then one else t

theorem replace_wildcards (ts : List GlobToken) :
    replace [lit '?'] one (replace [lit '*'] run ts) = ts.map settle := by
  rw [replace_singleton, replace_singleton, List.map_map]
  refine List.map_congr_left fun t _ => ?_
  by_cases ht : t = lit '*'
  · rw [ht]
    decide
  · simp [settle, ht]

theorem ofMarked_eq (ms : List (Option Char)) :
    ofMarked ms = (replace [lit '*', lit '*'] deep (ms.map ofMark)).map settle := by
  fun_induction ofMarked ms with
  | case1 => rw [List.map_nil, replace_nil, List.map_nil]
  | case2 ms ih =>
    rw [List.map_cons, replace_cons (by simp [ofMark]), List.map_cons, ← ih]
    rfl
  | case3 ms ih =>
    have hstep := replace_append (lit '*') [lit '*'] deep (ms.map ofMark)
    rw [ih, List.map_cons, List.map_cons]
    exact (congrArg (List.map settle) hstep).symm
  | case4 ms hstars ih =>
    have hprefix : ¬ [lit '*', lit '*'] <+: ofMark (some '*') :: ms.map ofMark := by
      cases ms with
      | nil => simp [ofMark]
      | cons m ms =>
        cases m with
        | none => simp [ofMark]
        | some c =>
          have hc : c ≠ '*' := fun e => hstars ms (by rw [e])
          simp [ofMark, hc.symm]
    rw [ih, List.map_cons, replace_cons hprefix, List.map_cons]
    rfl
  | case5 ms ih =>
    rw [List.map_cons, replace_cons (by simp [ofMark]), List.map_cons, ← ih]
    rfl
  | case6 c ms hstars hstar hone ih =>
    have hc : c ≠ '*' := hstar
    have hc' : c ≠ '?' := hone
    rw [List.map_cons, replace_cons (by simp [ofMark, hc.symm]), List.map_cons, ← ih]
    simp [ofMark, settle, hc, hc']

/-- The tokens of a pattern are what its characters become when the wildcards are replaced. -/
theorem ofChars_eq_replace (cs : List Char) :
    ofChars cs = replace [lit '?'] one (replace [lit '*'] run (replace [lit '*', lit '*'] deep
      (replace [lit '*', lit '*', lit '/'] deepSlash (cs.map lit)))) := by
  rw [ofChars, ofMarked_eq, map_markDeepSlash, replace_wildcards]

end GlobToken

namespace Glob

open GlobToken

/-- The expression of a pattern is its tokens, written one after the other. -/
theorem expression_eq (pattern : String) : expression pattern =
    String.ofList ('^' :: ((ofString pattern).tokens.flatMap fragment ++ ['$'])) := by
  have hstart : pattern.toList.flatMap escaped =
      (pattern.toList.map lit).flatMap fragment := by
    rw [List.flatMap_map]
    rfl
  have hdeepSlash : "\\*\\*/".toList = (['*', '*', '/'].map lit).flatMap fragment := by decide
  have hdeep : "\\*\\*".toList = (['*', '*'].map lit).flatMap fragment := by decide
  have hrun : "\\*".toList = (['*'].map lit).flatMap fragment := by decide
  have hone : "\\?".toList = (['?'].map lit).flatMap fragment := by decide
  have hstar : '*' ∈ ['*', '?'] := by decide
  have hmark : '?' ∈ ['*', '?'] := by decide
  have hfragments : "(?:.*/)?".toList = fragment deepSlash ∧ ".*".toList = fragment deep ∧
      "[^/]*".toList = fragment run ∧ "[^/]".toList = fragment one := ⟨rfl, rfl, rfl, rfl⟩
  obtain ⟨hdeepSlash', hdeep', hrun', hone'⟩ := hfragments
  rw [expression, hstart, hdeepSlash, hdeep, hrun, hone, hdeepSlash', hdeep', hrun', hone',
    replaceAll_flatMap hstar, replaceAll_flatMap hstar, replaceAll_flatMap hstar,
    replaceAll_flatMap hmark]
  exact congrArg (fun ts => String.ofList ('^' :: (ts.flatMap fragment ++ ['$'])))
    (ofChars_eq_replace pattern.toList).symm

/-- Each kind of token among signs. -/
example : expression "(a+b)/**/v?.*" = "^\\(a\\+b\\)/(?:.*/)?v[^/]\\.[^/]*$" := by decide

end Glob

end ContextCompiler
