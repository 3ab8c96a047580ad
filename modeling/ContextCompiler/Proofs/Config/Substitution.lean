import Mathlib
import ContextCompiler.Proofs.Config.Tokens

/-!
Substitution, by how tokens are written.

A token is told by its text alone (`IsToken`). No token starts inside another, so those that are
read from left to right are all tokens of a text (`mem_pieces`), and a character that no token has
keeps what is before it and what is behind it apart (`Divides.append`). What substitution does
follows from the way a text divides into pieces (`Fills`), whatever is bound.
-/

namespace ContextCompiler

namespace TokenForm

variable {f : TokenForm} {c : Char} {s t k r key key' front back : List Char}

/-! ## How tokens are written -/

/-- A letter or an underscore, and then letters, digits and some signs. -/
def IsKey : List Char → Prop
  | [] => False
  | c :: s => isKeyStart c = true ∧ ∀ d ∈ s, isKeyChar d = true

/-- A text is a token of a key. -/
inductive IsToken : TokenForm → List Char → List Char → Prop
  | braces {before key after : List Char} (hbefore : ∀ c ∈ before, Text.isBlank c = true)
      (hkey : IsKey key) (hafter : ∀ c ∈ after, Text.isBlank c = true) :
      IsToken braces key (['{', '{'] ++ (before ++ (key ++ (after ++ ['}', '}']))))
  | dollar {key : List Char} (hkey : IsKey key) : IsToken dollar key (['$', '{'] ++ (key ++ ['}']))

theorem isKeyChar_codes (h : isKeyChar c = true) :
    48 ≤ c.toNat ∧ c.toNat ≤ 57 ∨ 65 ≤ c.toNat ∧ c.toNat ≤ 90 ∨ 97 ≤ c.toNat ∧ c.toNat ≤ 122 ∨
      c.toNat = 95 ∨ c.toNat = 46 ∨ c.toNat = 45 := by
  simp only [isKeyChar, Char.isAlphanum, Char.isAlpha, Char.isUpper, Char.isLower, Char.isDigit,
    Bool.or_eq_true, Bool.and_eq_true, decide_eq_true_eq, beq_iff_eq, UInt32.le_iff_toNat_le,
    ge_iff_le] at h
  change ((((((65 ≤ c.toNat ∧ c.toNat ≤ 90) ∨ (97 ≤ c.toNat ∧ c.toNat ≤ 122)) ∨
    (48 ≤ c.toNat ∧ c.toNat ≤ 57)) ∨ c = '_') ∨ c = '.') ∨ c = '-') at h
  rcases h with ((((h | h) | h) | rfl) | rfl) | rfl
  · exact .inr (.inl h)
  · exact .inr (.inr (.inl h))
  · exact .inl h
  all_goals decide

theorem isBlank_of_isKeyChar (h : isKeyChar c = true) : Text.isBlank c = false := by
  have hcodes := isKeyChar_codes h
  simp only [Text.isBlank, Bool.or_eq_false_iff, Bool.and_eq_false_iff, decide_eq_false_iff_not,
    beq_eq_false_iff_ne]
  omega

theorem isKeyChar_of_isKeyStart (h : isKeyStart c = true) : isKeyChar c = true := by
  simp only [isKeyStart, isKeyChar, Char.isAlphanum, Bool.or_eq_true] at h ⊢
  tauto

theorem IsKey.isKeyChar (h : IsKey key) (hc : c ∈ key) : isKeyChar c = true := by
  cases key with
  | nil => exact h.elim
  | cons d s =>
    rcases List.mem_cons.1 hc with rfl | hc
    · exact isKeyChar_of_isKeyStart h.1
    · exact h.2 c hc

theorem IsToken.ne_nil (h : IsToken f key t) : t ≠ [] := by
  cases h <;> exact List.cons_ne_nil _ _

/-! ## Reading -/

theorem readKey_append (h : IsKey key) (hr : ∀ c ∈ r.head?, isKeyChar c = false) :
    readKey (key ++ r) = some (key, r) := by
  have hstop : r.takeWhile isKeyChar = [] ∧ r.dropWhile isKeyChar = r := by
    cases r with
    | nil => exact ⟨rfl, rfl⟩
    | cons d r =>
      have hd : ¬ isKeyChar d = true := by simp [hr d rfl]
      exact ⟨List.takeWhile_cons_of_neg hd, List.dropWhile_cons_of_neg hd⟩
  cases key with
  | nil => exact h.elim
  | cons c s =>
    rw [List.cons_append, readKey, if_pos h.1, List.takeWhile_append_of_pos h.2,
      List.dropWhile_append_of_pos h.2, hstop.1, hstop.2, List.append_nil]

theorem isKey_of_readKey (h : readKey s = some (k, r)) : IsKey k ∧ s = k ++ r := by
  cases s with
  | nil => cases h
  | cons c s =>
    rw [readKey] at h
    split at h
    · next hc =>
      cases h
      refine ⟨⟨hc, fun d hd => List.mem_takeWhile_imp hd⟩, ?_⟩
      rw [List.cons_append, List.takeWhile_append_dropWhile]
    · cases h

/-- Blanks that are passed over, up to what is none. -/
theorem dropWhile_isBlank_append (hs : ∀ c ∈ s, Text.isBlank c = true)
    (hr : ∀ c ∈ r.head?, Text.isBlank c = false) : (s ++ r).dropWhile Text.isBlank = r := by
  rw [List.dropWhile_append_of_pos hs]
  cases r with
  | nil => rfl
  | cons c r => exact List.dropWhile_cons_of_neg (by simp [hr c rfl])

theorem readToken_append (h : IsToken f key t) (r : List Char) :
    readToken f (t ++ r) = some (key, r) := by
  cases h with
  | @braces before key after hbefore hkey hafter =>
    have hopen : Text.dropPrefix? ['{', '{']
        (['{', '{'] ++ (before ++ (key ++ (after ++ ['}', '}']))) ++ r) =
          some (before ++ (key ++ (after ++ (['}', '}'] ++ r)))) := by
      rw [Text.dropPrefix?_eq_some_iff]
      simp only [List.append_assoc]
    have hstart : ∀ c ∈ (key ++ (after ++ (['}', '}'] ++ r))).head?, Text.isBlank c = false := by
      cases key with
      | nil => exact hkey.elim
      | cons d key =>
        intro c hc
        cases hc
        exact isBlank_of_isKeyChar (isKeyChar_of_isKeyStart hkey.1)
    have hstop : ∀ c ∈ (after ++ (['}', '}'] ++ r)).head?, isKeyChar c = false := by
      cases after with
      | nil =>
        intro c hc
        cases hc
        decide
      | cons d after =>
        intro c hc
        cases hc
        rw [← Bool.not_eq_true]
        intro hd
        have hblank := hafter d List.mem_cons_self
        rw [isBlank_of_isKeyChar hd] at hblank
        cases hblank
    have hclose : ∀ c ∈ (['}', '}'] ++ r).head?, Text.isBlank c = false := by
      intro c hc
      cases hc
      decide
    simp only [readToken, hopen, Option.bind_eq_bind, Option.bind_some,
      dropWhile_isBlank_append hbefore hstart, readKey_append hkey hstop,
      dropWhile_isBlank_append hafter hclose, Text.dropPrefix?_eq_some_iff.2 rfl]
    rfl
  | @dollar key hkey =>
    have hopen : Text.dropPrefix? ['$', '{'] (['$', '{'] ++ (key ++ ['}']) ++ r) =
        some (key ++ (['}'] ++ r)) := by
      rw [Text.dropPrefix?_eq_some_iff]
      simp only [List.append_assoc]
    have hstop : ∀ c ∈ (['}'] ++ r).head?, isKeyChar c = false := by
      intro c hc
      cases hc
      decide
    simp only [readToken, hopen, Option.bind_eq_bind, Option.bind_some,
      readKey_append hkey hstop, Text.dropPrefix?_eq_some_iff.2 rfl]
    rfl

/-- What is read as a token is one. -/
theorem isToken_of_readToken (h : readToken f s = some (k, r)) :
    ∃ t, IsToken f k t ∧ s = t ++ r := by
  cases f with
  | braces =>
    simp only [readToken, Option.bind_eq_bind, Option.bind_eq_some_iff, Prod.exists] at h
    obtain ⟨a, ha, key, b, hb, d, hd, e⟩ := h
    cases e
    obtain ⟨hkey, hkeyrest⟩ := isKey_of_readKey hb
    rw [Text.dropPrefix?_eq_some_iff] at ha hd
    have hbefore : ∀ c ∈ a.takeWhile Text.isBlank, Text.isBlank c = true :=
      fun c hc => List.mem_takeWhile_imp hc
    have hafter : ∀ c ∈ b.takeWhile Text.isBlank, Text.isBlank c = true :=
      fun c hc => List.mem_takeWhile_imp hc
    refine ⟨_, .braces hbefore hkey hafter, ?_⟩
    have hfront : a = a.takeWhile Text.isBlank ++ (k ++ b) := by
      rw [← hkeyrest, List.takeWhile_append_dropWhile]
    have hback : b = b.takeWhile Text.isBlank ++ (['}', '}'] ++ r) := by
      rw [← hd, List.takeWhile_append_dropWhile]
    simp only [List.append_assoc]
    rw [ha, ← hback, ← hfront]
  | dollar =>
    simp only [readToken, Option.bind_eq_bind, Option.bind_eq_some_iff, Prod.exists] at h
    obtain ⟨a, ha, key, b, hb, d, hd, e⟩ := h
    cases e
    obtain ⟨hkey, hkeyrest⟩ := isKey_of_readKey hb
    rw [Text.dropPrefix?_eq_some_iff] at ha hd
    refine ⟨_, .dollar hkey, ?_⟩
    rw [ha, hkeyrest, hd]
    simp only [List.append_assoc]

theorem readToken_eq_none_iff :
    readToken f s = none ↔ ∀ key t, IsToken f key t → ¬ t <+: s := by
  constructor
  · rintro h key t ht ⟨r, rfl⟩
    rw [readToken_append ht] at h
    cases h
  · intro h
    rw [Option.eq_none_iff_forall_ne_some]
    rintro ⟨k, r⟩ hread
    obtain ⟨t, ht, rfl⟩ := isToken_of_readToken hread
    exact h k t ht (List.prefix_append t r)

/-! ## Tokens side by side -/

/-- The sign that a token starts with is not found behind its opening. -/
theorem IsToken.opening (h : IsToken f key t) :
    (∃ u, f = .braces ∧ t = '{' :: '{' :: u ∧ u ≠ [] ∧ '{' ∉ u) ∨
      ∃ u, f = .dollar ∧ t = '$' :: u ∧ '$' ∉ u := by
  have hkeyChar : ∀ {d : Char} {key : List Char}, IsKey key → isKeyChar d = false → d ∉ key := by
    intro d key hkey hd hmem
    rw [hkey.isKeyChar hmem] at hd
    cases hd
  have hblank : ∀ {d : Char} {s : List Char}, (∀ c ∈ s, Text.isBlank c = true) →
      Text.isBlank d = false → d ∉ s := by
    intro d s hs hd hmem
    rw [hs d hmem] at hd
    cases hd
  cases h with
  | @braces before key after hbefore hkey hafter =>
    refine .inl ⟨_, rfl, rfl, ?_, ?_⟩
    · simp
    · simp [hblank hbefore (d := '{') (by decide), hkeyChar hkey (d := '{') (by decide),
        hblank hafter (d := '{') (by decide)]
  | @dollar key hkey =>
    refine .inr ⟨_, rfl, rfl, ?_⟩
    simp [hkeyChar hkey (d := '$') (by decide)]

/-- No token starts inside another. -/
theorem IsToken.not_prefix_inside {inside : List Char} (h : IsToken f key (front ++ inside))
    (hfront : front ≠ []) (hinside : inside ≠ []) (h' : IsToken f key' t) :
    ¬ t <+: inside ++ s := by
  obtain ⟨a, front, rfl⟩ := List.exists_cons_of_ne_nil hfront
  obtain ⟨d, inside, rfl⟩ := List.exists_cons_of_ne_nil hinside
  rcases h.opening with ⟨u, rfl, hu, hne, hfree⟩ | ⟨u, rfl, hu, hfree⟩
  · rcases h'.opening with ⟨v, -, rfl, -, -⟩ | ⟨v, hf, -⟩
    · rintro ⟨w, hw⟩
      cases front with
      | nil =>
        -- the second brace of the opening would have to be followed by a third one
        cases hu
        obtain ⟨e, u, rfl⟩ := List.exists_cons_of_ne_nil hne
        have he : '{' = e := (List.cons.inj (List.cons.inj hw).2).1
        exact hfree (he ▸ List.mem_cons_self)
      | cons b front =>
        cases hu
        have hd : '{' = d := (List.cons.inj hw).1
        exact hfree (hd ▸ List.mem_append_right _ List.mem_cons_self)
    · cases hf
  · rcases h'.opening with ⟨v, hf, -⟩ | ⟨v, -, rfl, -⟩
    · cases hf
    · rintro ⟨w, hw⟩
      cases hu
      have hd : '$' = d := (List.cons.inj hw).1
      exact hfree (hd ▸ List.mem_append_right _ List.mem_cons_self)

/-- A key stands in a token somewhere in a text. -/
def HasToken (f : TokenForm) (s key : List Char) : Prop :=
  ∃ front t back, s = front ++ t ++ back ∧ IsToken f key t

theorem HasToken.append_left (h : HasToken f s key) (front : List Char) :
    HasToken f (front ++ s) key := by
  obtain ⟨front', t, back, rfl, ht⟩ := h
  exact ⟨front ++ front', t, back, by simp only [List.append_assoc], ht⟩

/-! ## Pieces -/

/-- The pieces that a text divides into from left to right: a token wherever one starts. -/
inductive Divides (f : TokenForm) : List Char → List TextPiece → Prop
  | nil : Divides f [] []
  | char {c : Char} {s : List Char} {ps : List TextPiece}
      (hnone : ∀ key t, IsToken f key t → ¬ t <+: c :: s) (h : Divides f s ps) :
      Divides f (c :: s) (.char c :: ps)
  | token {key t s : List Char} {ps : List TextPiece} (ht : IsToken f key t)
      (h : Divides f s ps) : Divides f (t ++ s) (.token (String.ofList key) t :: ps)

theorem pieces_append (h : IsToken f key t) (s : List Char) :
    f.pieces (t ++ s) = .token (String.ofList key) t :: f.pieces s := by
  rw [pieces_token (readToken_append h s), List.length_append, Nat.add_sub_cancel, List.take_left]

theorem divides_pieces (f : TokenForm) (s : List Char) : Divides f s (f.pieces s) := by
  induction s using pieces.induct f with
  | case1 s key rest h ih =>
    obtain ⟨t, ht, rfl⟩ := isToken_of_readToken h
    rw [pieces_append ht]
    exact .token ht ih
  | case2 h =>
    rw [pieces_nil h]
    exact .nil
  | case3 c s h ih =>
    rw [pieces_char h]
    exact .char (readToken_eq_none_iff.1 h) ih

/-- A text divides in one way. -/
theorem Divides.eq_pieces {ps : List TextPiece} (h : Divides f s ps) : ps = f.pieces s := by
  induction h with
  | nil => exact (pieces_nil (readToken_nil f)).symm
  | char hnone _ ih => rw [pieces_char (readToken_eq_none_iff.2 hnone), ih]
  | token ht _ ih => rw [pieces_append ht, ih]

/-- A character that no token has keeps the pieces on its two sides apart. -/
theorem Divides.append {ps qs : List TextPiece} (hc : ∀ key t, IsToken f key t → c ∉ t)
    (hs : Divides f s ps) (hr : Divides f r qs) :
    Divides f (s ++ c :: r) (ps ++ .char c :: qs) := by
  induction hs with
  | nil =>
    refine .char (fun key t ht hpre => ?_) hr
    obtain ⟨d, t, rfl⟩ := List.exists_cons_of_ne_nil ht.ne_nil
    exact hc key _ ht ((List.cons_prefix_cons.1 hpre).1 ▸ List.mem_cons_self)
  | @char d s ps hnone _ ih =>
    refine .char (fun key t ht hpre => ?_) ih
    -- the token ends before the character, or goes on over it
    rcases List.prefix_or_prefix_of_prefix hpre (List.prefix_append (d :: s) (c :: r)) with h | h
    · exact hnone key t ht h
    · obtain ⟨ahead, rfl⟩ := h
      cases ahead with
      | nil => exact hnone key _ ht (by simp)
      | cons e ahead =>
        have hover := (List.prefix_append_right_inj (d :: s)).1 hpre
        rw [(List.cons_prefix_cons.1 hover).1] at ht
        exact hc key _ ht (List.mem_append_right _ List.mem_cons_self)
  | token ht _ ih =>
    rw [List.append_assoc]
    exact .token ht ih

/-- The tokens that a text divides into are found in it. -/
theorem hasToken_of_mem_pieces {name : String} {text : List Char}
    (h : .token name text ∈ f.pieces s) : ∃ key, name = String.ofList key ∧ HasToken f s key := by
  have hdivides := divides_pieces f s
  generalize f.pieces s = ps at h hdivides
  induction hdivides with
  | nil => cases h
  | @char c s ps _ _ ih =>
    obtain ⟨key, hname, hkey⟩ := ih ((List.mem_cons.1 h).resolve_left nofun)
    exact ⟨key, hname, hkey.append_left [c]⟩
  | @token key t s ps ht _ ih =>
    rcases List.mem_cons.1 h with heq | h
    · cases heq
      exact ⟨key, rfl, [], _, s, rfl, ht⟩
    · obtain ⟨key', hname, hkey⟩ := ih h
      exact ⟨key', hname, hkey.append_left t⟩

/-- Every token that is found in a text is one that it divides into. -/
theorem mem_pieces (ht : IsToken f key t) :
    .token (String.ofList key) t ∈ f.pieces (front ++ t ++ back) := by
  generalize hs : front ++ t ++ back = s
  have hdivides := divides_pieces f s
  generalize f.pieces s = ps at hdivides ⊢
  induction hdivides generalizing front with
  | nil => exact absurd (List.append_eq_nil_iff.1 (List.append_eq_nil_iff.1 hs).1).2 ht.ne_nil
  | @char c s ps hnone _ ih =>
    cases front with
    | nil => exact absurd ⟨back, hs⟩ (hnone key t ht)
    | cons d front =>
      cases hs
      exact List.mem_cons_of_mem _ (ih rfl)
  | @token key' t' s ps ht' _ ih =>
    rw [List.append_assoc] at hs
    rcases List.append_eq_append_iff.1 hs with ⟨inside, rfl, hback⟩ | ⟨front', rfl, hrest⟩
    · by_cases hfront : front = []
      · -- both start the text, and only one token can be read there
        subst hfront
        have hread := readToken_append ht' s
        rw [← hs, List.nil_append, readToken_append ht back] at hread
        cases hread
        rw [List.append_cancel_right hback]
        exact List.mem_cons_self
      · by_cases hinside : inside = []
        · subst hinside
          refine List.mem_cons_of_mem _ (@ih [] ?_)
          exact hback
        · exact absurd ⟨back, hback⟩ (ht'.not_prefix_inside hfront hinside ht)
    · refine List.mem_cons_of_mem _ (@ih front' ?_)
      rw [List.append_assoc]
      exact hrest.symm

/-! ## Filling in -/

/-- What it means to fill in the tokens of one form: the text is gone through once, and every token
gives way to the value of its key, if the key is bound, while all else is kept. So only the keys of
the tokens count, a text none of whose keys is bound stays as it is, and what stands on the two
sides of a character that no token has is filled in on its own. -/
structure Fills (f : TokenForm) (fill : Scope → String → String) : Prop where
  piecewise : ∀ scope text, ∃ ps, f.Divides text.toList ps ∧
    (∀ front key t back, text.toList = front ++ t ++ back → f.IsToken key t →
      .token (String.ofList key) t ∈ ps) ∧
    (fill scope text).toList = ps.flatMap (TextPiece.fill scope)
  congr : ∀ (a b : Scope) text, (∀ key, f.HasToken text.toList key →
    a.get? (String.ofList key) = b.get? (String.ofList key)) → fill a text = fill b text
  unbound : ∀ scope text, (∀ key, f.HasToken text.toList key →
    scope.get? (String.ofList key) = none) → fill scope text = text
  append : ∀ scope s c t, (∀ key token, f.IsToken key token → c ∉ token) →
    fill scope (s ++ String.singleton c ++ t) = fill scope s ++ String.singleton c ++ fill scope t

end TokenForm

open TokenForm

namespace Scope

theorem fillTokens_eq_self {scope : Scope} {f : TokenForm} {text : String}
    (h : ∀ key, f.HasToken text.toList key → scope.get? (String.ofList key) = none) :
    scope.fillTokens f text = text := by
  refine String.toList_injective ?_
  rw [toList_fillTokens]
  conv_rhs => rw [← flatMap_text_pieces f text.toList]
  refine List.flatMap_congr fun p hp => ?_
  cases p with
  | char c => rfl
  | token name t =>
    obtain ⟨key, rfl, hkey⟩ := hasToken_of_mem_pieces hp
    rw [TextPiece.fill, h key hkey]
    rfl

theorem fillTokens_append (scope : Scope) {f : TokenForm} {c : Char}
    (hc : ∀ key token, f.IsToken key token → c ∉ token) (s t : String) :
    scope.fillTokens f (s ++ String.singleton c ++ t) =
      scope.fillTokens f s ++ String.singleton c ++ scope.fillTokens f t := by
  have hdivides := (divides_pieces f s.toList).append hc (divides_pieces f t.toList)
  refine String.toList_injective ?_
  simp only [String.toList_append, String.toList_singleton, toList_fillTokens, List.append_assoc,
    List.singleton_append, ← hdivides.eq_pieces, List.flatMap_append, List.flatMap_cons]
  rfl

theorem fills_fillTokens (f : TokenForm) : f.Fills fun scope => scope.fillTokens f where
  piecewise scope text := ⟨f.pieces text.toList, divides_pieces f _,
    fun front key t back htext ht => htext ▸ mem_pieces ht, toList_fillTokens scope f text⟩
  congr a b text h := by
    refine fillTokens_congr fun name hname => ?_
    obtain ⟨p, hp, hkey⟩ := List.mem_filterMap.1 hname
    cases p with
    | char c => cases hkey
    | token name' t =>
      cases hkey
      obtain ⟨key, rfl, htoken⟩ := hasToken_of_mem_pieces hp
      exact h key htoken
  unbound _ _ h := fillTokens_eq_self h
  append scope s _ t hc := fillTokens_append scope hc s t

/-- Both ways to refer to variables are filled in by one pass, token by token. -/
theorem substitute_fills :
    TokenForm.braces.Fills substitute ∧ TokenForm.dollar.Fills substituteEnv :=
  ⟨fills_fillTokens .braces, fills_fillTokens .dollar⟩

/-- Values that look like tokens, and braces around tokens, are kept. -/
example : substitute (.ofList [("A", "{{B}}"), ("B", "x")]) "{{{A}}} {{ {{B }} }}" =
    "{{{B}}} {{ x }}" := by
  cbv

end Scope

end ContextCompiler
