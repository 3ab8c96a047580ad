import ContextCompiler.Modifiers.Chain
import ContextCompiler.Proofs.Markdown.Code

/-!
The form of tidied texts.

Each pass may undo what an earlier one has brought about, so the form comes from the last passes.
No line ends in a blank and no three line feeds follow each other: both hold of every part of a
text in which they hold, so they outlast the trimming of the whole text. From there on lines count
only by their last characters, and putting headings to the second level changes none of those.
-/

namespace ContextCompiler

namespace Text

variable {c : Char} {l s : List Char} {ls : List (List Char)}

theorem pair_infix_append_feed (hl : '\n' ∉ l) (hc : c ≠ '\n') (h : [c, '\n'] <:+: l ++ '\n' :: s) :
    c ∈ l.getLast? ∨ [c, '\n'] <:+: s := by
  induction l with
  | nil =>
    rcases List.infix_cons_iff.1 h with hfront | hlater
    · exact absurd (List.cons_prefix_cons.1 hfront).1 hc
    · exact .inr hlater
  | cons d l ih =>
    rw [List.mem_cons, not_or] at hl
    rcases List.infix_cons_iff.1 h with hfront | hlater
    · obtain ⟨rfl, hrest⟩ := List.cons_prefix_cons.1 hfront
      cases l with
      | nil => exact .inl rfl
      | cons e l => exact absurd (List.mem_cons.2 (.inl (List.cons_prefix_cons.1 hrest).1)) hl.2
    · rw [List.getLast?_cons, Option.mem_def, Option.some.injEq]
      refine (ih hl.2 hlater).imp_left fun hlast => ?_
      rw [Option.mem_def.1 hlast, Option.getD_some]

/-- What stands right before a line feed is at the end of a line. -/
theorem mem_getLast?_of_pair_infix (hls : ∀ l ∈ ls, '\n' ∉ l) (hc : c ≠ '\n')
    (h : [c, '\n'] <:+: unlines ls) : ∃ l ∈ ls, c ∈ l.getLast? := by
  induction ls with
  | nil => exact absurd (List.infix_nil.1 h) (List.cons_ne_nil _ _)
  | cons l ls ih =>
    obtain ⟨hl, hrest⟩ := List.forall_mem_cons.1 hls
    by_cases hne : ls = []
    · subst hne
      exact absurd (h.subset (by simp)) hl
    · rw [unlines_cons hne] at h
      rcases pair_infix_append_feed hl hc h with hlast | hlater
      · exact ⟨l, List.mem_cons_self, hlast⟩
      · obtain ⟨m, hm, hlast⟩ := ih hrest hlater
        exact ⟨m, List.mem_cons_of_mem l hm, hlast⟩

theorem unlines_concat_nil (ls : List (List Char)) :
    unlines (ls ++ [[]]) = (ls.map (· ++ ['\n'])).flatten := by
  induction ls with
  | nil => rfl
  | cons l ls ih => rw [unlines_cons_concat, ih, List.map_cons, List.flatten_cons, List.append_cons]

theorem append_of_span {p : Char → Bool} {a b : List Char} (h : s.span p = (a, b)) :
    s = a ++ b ∧ (∀ c ∈ a, p c = true) ∧ ∀ c ∈ b.head?, p c = false := by
  rw [List.span_eq_takeWhile_dropWhile] at h
  obtain ⟨rfl, rfl⟩ := Prod.mk.inj h
  refine ⟨List.takeWhile_append_dropWhile.symm, fun c hc => List.mem_takeWhile_imp hc,
    fun c hc => ?_⟩
  have hhead := List.head?_dropWhile_not p s
  rw [Option.mem_def.1 hc] at hhead
  simpa using hhead

end Text

namespace Markdown

variable {c : Char} {l s t : List Char} {ls ms : List (List Char)} {inCode seen : Bool}

/-! ## The passes that give the form -/

/-- No line but perhaps the last ends in a blank, and no three line feeds follow each other. -/
structure IsEven (s : List Char) : Prop where
  bare : ∀ c, Text.isBlank c = true → c ≠ '\n' → ¬ [c, '\n'] <:+: s
  sparse : ¬ ['\n', '\n', '\n'] <:+: s

theorem IsEven.of_infix (h : IsEven s) (ht : t <:+: s) : IsEven t :=
  ⟨fun c hblank hc hpair => h.bare c hblank hc (hpair.trans ht), fun hfeeds =>
    h.sparse (hfeeds.trans ht)⟩

theorem trimLineEnds_bare (s : List Char) (hblank : Text.isBlank c = true) (hc : c ≠ '\n') :
    ¬ [c, '\n'] <:+: trimLineEnds s := by
  intro h
  have hfeed := Text.not_mem_map (Text.dropEndWhile_subset Text.isBlank)
    fun l => Text.not_mem_of_mem_lineChars (l := l) (s := s)
  obtain ⟨l, hl, hlast⟩ := Text.mem_getLast?_of_pair_infix hfeed hc h
  obtain ⟨m, -, rfl⟩ := List.mem_map.1 hl
  exact Bool.eq_false_iff.1 (Text.getLast?_dropEndWhile hlast) hblank

/-- Leaving line feeds out behind others brings no other character to a line feed. -/
theorem pair_infix_of_collapseFeeds {n : Nat} (hc : c ≠ '\n')
    (h : [c, '\n'] <:+: collapseFeeds n s) : [c, '\n'] <:+: s := by
  induction s generalizing n with
  | nil => exact h
  | cons d s ih =>
    rw [collapseFeeds] at h
    split at h
    · split at h
      · rcases List.infix_cons_iff.1 h with hfront | hlater
        · next hd _ =>
          exact absurd ((List.cons_prefix_cons.1 hfront).1.trans (eq_of_beq hd)) hc
        · exact (ih hlater).trans (List.infix_cons List.infix_rfl)
      · exact (ih h).trans (List.infix_cons List.infix_rfl)
    · rcases List.infix_cons_iff.1 h with hfront | hlater
      · obtain ⟨rfl, r, hr⟩ := List.cons_prefix_cons.1 hfront
        have hhead := head?_collapseFeeds s
        rw [← hr] at hhead
        obtain ⟨s', rfl⟩ := List.head?_eq_some_iff.1 hhead.symm
        exact ⟨[], s', rfl⟩
      · exact (ih hlater).trans (List.infix_cons List.infix_rfl)

theorem feeds_infix_append_cons {n : Nat} (hn : n ≤ 2) (hc : c ≠ '\n')
    (h : ['\n', '\n', '\n'] <:+: List.replicate n '\n' ++ c :: s) : ['\n', '\n', '\n'] <:+: s := by
  interval_cases n <;>
    simpa [List.infix_cons_iff, List.replicate_succ, List.cons_prefix_cons, hc.symm] using h

theorem collapseFeeds_sparse {n : Nat} (hn : n ≤ 2) (s : List Char) :
    ¬ ['\n', '\n', '\n'] <:+: List.replicate n '\n' ++ collapseFeeds n s := by
  induction s generalizing n with
  | nil =>
    intro h
    have hlength := h.length_le
    rw [collapseFeeds, List.append_nil, List.length_replicate] at hlength
    exact absurd hlength (Nat.not_le.2 (Nat.lt_succ_of_le hn))
  | cons c s ih =>
    rw [collapseFeeds]
    split
    · next hc =>
      obtain rfl := eq_of_beq hc
      split
      · next hlt =>
        have hmore := ih (Nat.succ_le_of_lt hlt)
        rwa [List.replicate_succ', List.append_assoc] at hmore
      · exact ih hn
    · next hc =>
      exact fun h => ih (Nat.zero_le 2) (feeds_infix_append_cons hn (by simpa using hc) h)

theorem isEven_collapseFeeds (hbare : ∀ c, Text.isBlank c = true → c ≠ '\n' → ¬ [c, '\n'] <:+: s) :
    IsEven (collapseFeeds 0 s) :=
  ⟨fun c hblank hc h => hbare c hblank hc (pair_infix_of_collapseFeeds hc h),
    collapseFeeds_sparse (Nat.zero_le 2) s⟩

/-- A line feed behind what is shown keeps the form. -/
theorem IsEven.append_feed (h : IsEven s) (hlast : ∀ c ∈ s.getLast?, Text.isBlank c = false) :
    IsEven (s ++ ['\n']) := by
  have hend : ∀ {c : Char} {p : List Char}, Text.isBlank c = true →
      p ++ [c] ++ ['\n'] <:+: s ++ ['\n'] → p ++ [c] ++ ['\n'] <:+: s := fun {c p} hblank hp => by
    refine (List.infix_concat_iff.1 hp).resolve_left fun hsuffix => ?_
    obtain ⟨r, hr⟩ := hsuffix
    have hs : s = r ++ p ++ [c] := by
      have := List.append_cancel_right ((List.append_assoc _ _ _).trans hr)
      simpa using this.symm
    have hc : c ∈ s.getLast? := by rw [hs, List.getLast?_concat, Option.mem_def]
    rw [hlast c hc] at hblank
    cases hblank
  exact ⟨fun c hblank hc hpair => h.bare c hblank hc (hend (p := []) hblank hpair),
    fun hfeeds => h.sparse (hend (c := '\n') (p := ['\n']) (by decide) hfeeds)⟩

/-- A text that is closed is empty, or something shown between its ends with a line feed behind. -/
theorem closed_eq (s : List Char) : closed s = [] ∨ ∃ t, closed s = t ++ ['\n'] ∧ t <:+: s ∧
    (∃ c ∈ t.head?, Text.isBlank c = false) ∧ ∃ c ∈ t.getLast?, Text.isBlank c = false := by
  rw [closed]
  split
  · exact .inl rfl
  · next hne =>
    obtain ⟨front, back, hs, -, -⟩ := Text.exists_append_trimWhile Text.isBlank s
    have hhead := List.head?_eq_some_head hne
    have hlast := List.getLast?_eq_some_getLast hne
    exact .inr ⟨_, rfl, ⟨front, back, hs.symm⟩, ⟨_, hhead, Text.head?_trimWhile hhead⟩,
      ⟨_, hlast, Text.getLast?_dropEndWhile hlast⟩⟩

/-! ## Lines by their last characters -/

/-- The last characters of the lines of a tidied text, none where a line is empty. -/
structure AreEnds (ends : List (Option Char)) : Prop where
  trimmed : ∀ c, some c ∈ ends → Text.isBlank c = false
  first : ∃ c, ends.head? = some (some c)
  last : ∃ c, ends.getLast? = some (some c)
  apart : ends.IsChain fun a b => a ≠ none ∨ b ≠ none

/-- The lines of a text that is tidied and not empty, without the end of the last of them. -/
structure AreTidied (ls : List (List Char)) : Prop where
  no_feed : ∀ l ∈ ls, '\n' ∉ l
  ends : AreEnds (ls.map List.getLast?)

theorem exists_first_end (h : ∃ c ∈ (Text.unlines ls).head?, Text.isBlank c = false) :
    ∃ c, (ls.map List.getLast?).head? = some (some c) := by
  obtain ⟨c, hc, hblank⟩ := h
  cases ls with
  | nil => cases hc
  | cons l ls =>
    have hl : l ≠ [] := by
      rintro rfl
      by_cases hne : ls = []
      · subst hne
        cases hc
      · rw [Text.unlines_cons hne, List.nil_append, List.head?_cons, Option.mem_def,
          Option.some.injEq] at hc
        subst hc
        cases hblank
    rw [List.map_cons, List.head?_cons, List.getLast?_eq_some_getLast hl]
    exact ⟨_, rfl⟩

theorem exists_last_end (h : ∃ c ∈ (Text.unlines ls).getLast?, Text.isBlank c = false) :
    ∃ c, (ls.map List.getLast?).getLast? = some (some c) := by
  obtain ⟨c, hc, hblank⟩ := h
  rcases List.eq_nil_or_concat ls with rfl | ⟨ls, l, rfl⟩
  · cases hc
  · rw [List.concat_eq_append] at hc ⊢
    have hl : l ≠ [] := by
      rintro rfl
      by_cases hne : ls = []
      · subst hne
        cases hc
      · rw [Text.unlines_closed hne, List.getLast?_concat, Option.mem_def, Option.some.injEq] at hc
        subst hc
        cases hblank
    rw [List.map_append, List.map_singleton, List.getLast?_concat, List.getLast?_eq_some_getLast hl]
    exact ⟨_, rfl⟩

/-- An even text between shown characters has tidied lines. -/
theorem areTidied_of_isEven (hfeed : ∀ l ∈ ls, '\n' ∉ l)
    (heven : IsEven (Text.unlines (ls ++ [[]])))
    (hfirst : ∃ c ∈ (Text.unlines ls).head?, Text.isBlank c = false)
    (hlast : ∃ c ∈ (Text.unlines ls).getLast?, Text.isBlank c = false) : AreTidied ls := by
  rw [Text.unlines_concat_nil] at heven
  have hfirst := exists_first_end hfirst
  refine ⟨hfeed, ?_, hfirst, exists_last_end hlast, ?_⟩
  · intro c hc
    obtain ⟨l, hl, hend⟩ := List.mem_map.1 hc
    obtain ⟨front, rfl⟩ := List.getLast?_eq_some_iff.1 hend
    have hpart : [c, '\n'] <:+: front ++ [c] ++ ['\n'] := ⟨front, [], by simp⟩
    rw [← Bool.not_eq_true]
    intro hblank
    refine heven.bare c hblank (fun hfeed' => hfeed _ hl (by simp [hfeed'])) (hpart.trans ?_)
    exact List.infix_of_mem_flatten (List.mem_map_of_mem hl)
  · rw [List.isChain_map, List.isChain_iff_forall_rel_of_append_cons_cons]
    rintro a b front back rfl
    by_contra hnone
    rw [not_or, not_not, not_not, List.getLast?_eq_none_iff, List.getLast?_eq_none_iff] at hnone
    obtain ⟨rfl, rfl⟩ := hnone
    rcases List.eq_nil_or_concat front with rfl | ⟨front, l, rfl⟩
    · simp at hfirst
    · refine heven.sparse ⟨(front.map (· ++ ['\n'])).flatten ++ l,
        (back.map (· ++ ['\n'])).flatten, ?_⟩
      simp

/-- The last passes give any text the form. -/
theorem closed_lines (s : List Char) : closed (collapseFeeds 0 (trimLineEnds s)) = [] ∨
    ∃ ls, closed (collapseFeeds 0 (trimLineEnds s)) = Text.unlines (ls ++ [[]]) ∧
      AreTidied ls := by
  have heven := isEven_collapseFeeds fun c => trimLineEnds_bare (c := c) s
  rcases closed_eq (collapseFeeds 0 (trimLineEnds s)) with hnil | ⟨t, ht, hpart, hfirst, hlast⟩
  · exact .inl hnil
  · obtain ⟨ls, l, -, hlines, hls, hl⟩ := Text.exists_unlines t
    have hfeed : ∀ m ∈ ls ++ [l], '\n' ∉ m :=
      List.forall_mem_append.2 ⟨hls, List.forall_mem_singleton.2 hl⟩
    have hclosed : t ++ ['\n'] = Text.unlines (ls ++ [l] ++ [[]]) := by
      rw [Text.unlines_closed (by simp), ← hlines]
    have hend : ∀ c ∈ t.getLast?, Text.isBlank c = false := by
      obtain ⟨d, hd, hblank⟩ := hlast
      exact fun c hc => Option.mem_unique hd hc ▸ hblank
    refine .inr ⟨ls ++ [l], ht.trans hclosed, areTidied_of_isEven hfeed ?_ (hlines ▸ hfirst)
      (hlines ▸ hlast)⟩
    rw [← hclosed]
    exact (heven.of_infix hpart).append_feed hend

theorem tidy_lines (base : Option Url) (s : List Char) :
    tidy base s = [] ∨ ∃ ls, tidy base s = Text.unlines (ls ++ [[]]) ∧ AreTidied ls :=
  closed_lines _

/-! ## The form of a text -/

/-- What a tidied text that is not empty looks like. Its pieces between line feeds are its lines and
an empty one at the end. -/
structure IsTidied (s : List Char) : Prop where
  first : ∃ l ls, Text.splitOn '\n' s = l :: ls ∧ l.all Text.isBlank = false
  last : ∃ ls l, Text.splitOn '\n' s = ls ++ [l, []] ∧ l.all Text.isBlank = false
  trimmed : ∀ l ∈ Text.splitOn '\n' s, ∀ c ∈ l.getLast?, Text.isBlank c = false
  no_return : ¬ ['\r', '\n'] <:+: s
  apart : (Text.splitOn '\n' s).IsChain fun a b =>
    a.all Text.isBlank = false ∨ b.all Text.isBlank = false

theorem AreTidied.getLast? (h : AreTidied ls) (hl : l ∈ ls) (hc : c ∈ l.getLast?) :
    Text.isBlank c = false :=
  h.ends.trimmed c (List.mem_map.2 ⟨l, hl, hc⟩)

theorem AreTidied.all_isBlank (h : AreTidied ls) (hl : l ∈ ls) (hne : l.getLast? ≠ none) :
    l.all Text.isBlank = false := by
  obtain ⟨c, hc⟩ := Option.ne_none_iff_exists'.1 hne
  exact List.all_eq_false.2 ⟨c, List.mem_of_getLast? hc, by simp [h.getLast? hl hc]⟩

theorem AreTidied.splitOn (h : AreTidied ls) :
    Text.splitOn '\n' (Text.unlines (ls ++ [[]])) = ls ++ [[]] :=
  Text.splitOn_unlines h.no_feed List.not_mem_nil

theorem AreTidied.exists_cons (h : AreTidied ls) :
    ∃ l rest, ls = l :: rest ∧ l.all Text.isBlank = false := by
  obtain ⟨c, hc⟩ := h.ends.first
  cases ls with
  | nil => cases hc
  | cons l rest =>
    have hl : l.getLast? = some c := Option.some.inj hc
    exact ⟨l, rest, rfl, h.all_isBlank List.mem_cons_self (by simp [hl])⟩

theorem AreTidied.exists_concat (h : AreTidied ls) :
    ∃ front l, ls = front ++ [l] ∧ l.all Text.isBlank = false := by
  obtain ⟨c, hc⟩ := h.ends.last
  rcases List.eq_nil_or_concat ls with rfl | ⟨front, l, rfl⟩
  · cases hc
  · rw [List.concat_eq_append] at h hc ⊢
    rw [List.map_append, List.map_singleton, List.getLast?_concat, Option.some.injEq] at hc
    exact ⟨front, l, rfl, h.all_isBlank (by simp) (by simp [hc])⟩

theorem AreTidied.isTidied (h : AreTidied ls) : IsTidied (Text.unlines (ls ++ [[]])) := by
  obtain ⟨l, rest, hfirst, hfirstShown⟩ := h.exists_cons
  obtain ⟨front, m, hlast, hlastShown⟩ := h.exists_concat
  refine ⟨?_, ?_, ?_, ?_, ?_⟩
  · exact ⟨l, rest ++ [[]], by rw [h.splitOn, hfirst, List.cons_append], hfirstShown⟩
  · exact ⟨front, m, by rw [h.splitOn, hlast, List.append_assoc, List.singleton_append],
      hlastShown⟩
  · rw [h.splitOn, List.forall_mem_append, List.forall_mem_singleton]
    exact ⟨fun l hl c hc => h.getLast? hl hc, fun c hc => nomatch hc⟩
  · intro hreturn
    have hfeed : ∀ l ∈ ls ++ [[]], '\n' ∉ l :=
      List.forall_mem_append.2 ⟨h.no_feed, List.forall_mem_singleton.2 List.not_mem_nil⟩
    obtain ⟨k, hk, hend⟩ := Text.mem_getLast?_of_pair_infix hfeed (by decide) hreturn
    rcases List.mem_append.1 hk with hk | hk
    · exact absurd (h.getLast? hk hend) (by decide)
    · rw [List.mem_singleton.1 hk] at hend
      cases hend
  · rw [h.splitOn, List.isChain_append]
    refine ⟨?_, List.isChain_singleton _, fun a ha b _ => .inl ?_⟩
    · rw [List.isChain_iff_forall_rel_of_append_cons_cons]
      rintro a b before behind rfl
      have hapart := h.ends.apart
      rw [List.isChain_map, List.isChain_iff_forall_rel_of_append_cons_cons] at hapart
      exact (hapart rfl).imp (h.all_isBlank (by simp)) (h.all_isBlank (by simp))
    · rw [hlast, List.getLast?_concat, Option.mem_def, Option.some.injEq] at ha
      exact ha ▸ hlastShown

/-! ## Headings -/

/-- A heading of the first level: one sign, blanks, and a text. -/
def IsHeading (line : List Char) : Prop :=
  ∃ blanks text, line = '#' :: (blanks ++ text) ∧ blanks ≠ [] ∧ text ≠ [] ∧
    ∀ c ∈ blanks, Text.isBlank c = true

theorem heading?_eq_some {text : List Char} (h : heading? l = some text) :
    ∃ blanks, l = '#' :: (blanks ++ text) ∧ blanks ≠ [] ∧ text ≠ [] ∧
      ∀ c ∈ blanks, Text.isBlank c = true := by
  unfold heading? at h
  split at h
  · next s =>
    cases hspan : s.span Text.isBlank with
    | mk front rest =>
      obtain ⟨hs, hfront, -⟩ := Text.append_of_span hspan
      rw [hspan] at h
      cases front with
      | nil => cases h
      | cons b front =>
        cases rest with
        | cons c rest => exact ⟨_, by rw [← Option.some.inj h, hs], List.cons_ne_nil _ _,
            Option.some.inj h ▸ List.cons_ne_nil _ _, hfront⟩
        | nil =>
          obtain ⟨c, hc, rfl⟩ := Option.map_eq_some_iff.1 h
          obtain ⟨between, rfl⟩ := List.getLast?_eq_some_iff.1 hc
          rw [List.append_nil, ← List.cons_append] at hs
          exact ⟨b :: between, by rw [hs], List.cons_ne_nil _ _, List.cons_ne_nil _ _,
            fun d hd => hfront d (List.mem_append_left _ hd)⟩
  · cases h

theorem exists_heading? (h : IsHeading l) : ∃ text, heading? l = some text := by
  obtain ⟨blanks, text, rfl, hblanks, htext, hall⟩ := h
  rw [heading?]
  cases hspan : (blanks ++ text).span Text.isBlank with
  | mk front rest =>
    obtain ⟨hs, -, hrest⟩ := Text.append_of_span hspan
    obtain ⟨b, blanks, rfl⟩ := List.exists_cons_of_ne_nil hblanks
    cases front with
    | nil =>
      rw [List.nil_append] at hs
      have hhead : b ∈ rest.head? := by rw [← hs, List.cons_append, List.head?_cons, Option.mem_def]
      exact absurd (hrest b hhead) (Bool.not_eq_false _ ▸ hall b List.mem_cons_self)
    | cons d front =>
      cases rest with
      | cons c rest => exact ⟨c :: rest, rfl⟩
      | nil =>
        rw [List.append_nil, List.cons_append] at hs
        have hfront : front ≠ [] := by
          rw [← (List.cons.inj hs).2]
          exact List.append_ne_nil_of_right_ne_nil _ htext
        exact ⟨_, congrArg (Option.map _) (List.getLast?_eq_some_getLast hfront)⟩

theorem isHeading_iff : IsHeading l ↔ ∃ text, heading? l = some text :=
  ⟨exists_heading?, fun ⟨text, h⟩ =>
    let ⟨blanks, hl, hblanks, htext, hall⟩ := heading?_eq_some h
    ⟨blanks, text, hl, hblanks, htext, hall⟩⟩

instance (line : List Char) : Decidable (IsHeading line) :=
  decidable_of_iff (heading? line).isSome (Option.isSome_iff_exists.trans isHeading_iff.symm)

/-- The lines that are not in code, and are no fences. -/
def proseOf : Bool → List (List Char) → List (List Char)
  | _, [] => []
  | inCode, l :: ls =>
    if isFence l then proseOf (!inCode) ls
    else if inCode then proseOf inCode ls
    else l :: proseOf inCode ls

/-- The headings of the first level of a text. -/
def headings (s : List Char) : List (List Char) :=
  (proseOf false (Text.splitOn '\n' s)).filter (IsHeading ·)

/-- How headings go to the second level, line by line: what code is open, whether a heading was
seen, the lines before and after. -/
inductive Demotes : Bool → Bool → List (List Char) → List (List Char) → Prop
  | nil {inCode seen : Bool} : Demotes inCode seen [] []
  | fence {inCode seen : Bool} {l : List Char} {ls ms : List (List Char)} : isFence l = true →
      Demotes (!inCode) seen ls ms → Demotes inCode seen (l :: ls) (l :: ms)
  | code {seen : Bool} {l : List Char} {ls ms : List (List Char)} : isFence l = false →
      Demotes true seen ls ms → Demotes true seen (l :: ls) (l :: ms)
  | prose {seen : Bool} {l : List Char} {ls ms : List (List Char)} : isFence l = false →
      ¬ IsHeading l → Demotes false seen ls ms → Demotes false seen (l :: ls) (l :: ms)
  | first {l : List Char} {ls ms : List (List Char)} : isFence l = false → IsHeading l →
      Demotes false true ls ms → Demotes false false (l :: ls) (l :: ms)
  | further {l text : List Char} {ls ms : List (List Char)} : isFence l = false →
      heading? l = some text → Demotes false true ls ms →
      Demotes false true (l :: ls) (('#' :: '#' :: ' ' :: text) :: ms)

theorem demotes_demote (inCode seen : Bool) (ls : List (List Char)) :
    Demotes inCode seen ls (demote inCode seen ls) := by
  induction ls generalizing inCode seen with
  | nil => exact .nil
  | cons l ls ih =>
    rw [demote]
    by_cases hfence : isFence l = true
    · rw [if_pos hfence]
      exact .fence hfence (ih _ _)
    rw [if_neg hfence]
    rw [Bool.not_eq_true] at hfence
    cases inCode with
    | true => exact .code hfence (ih _ _)
    | false =>
      cases hheading : heading? l with
      | none =>
        have hplain : ¬ IsHeading l := fun h => by
          obtain ⟨text, htext⟩ := isHeading_iff.1 h
          cases hheading.symm.trans htext
        exact .prose hfence hplain (ih _ _)
      | some text =>
        cases seen with
        | false => exact .first hfence (isHeading_iff.2 ⟨text, hheading⟩) (ih _ _)
        | true => exact .further hfence hheading (ih _ _)

namespace Demotes

/-- A heading of the second level is none of the first, and no fence. -/
theorem not_isHeading (text : List Char) : ¬ IsHeading ('#' :: '#' :: text) := by
  rintro ⟨blanks, rest, hline, hblanks, -, hall⟩
  obtain ⟨b, blanks, rfl⟩ := List.exists_cons_of_ne_nil hblanks
  obtain ⟨rfl, -⟩ := List.cons.inj (List.cons.inj hline).2
  exact absurd (hall '#' List.mem_cons_self) (by decide)

theorem isFence_further (text : List Char) : isFence ('#' :: '#' :: ' ' :: text) = false := rfl

/-- Of the headings at most the first is left, as it was. -/
theorem headings (h : Demotes inCode seen ls ms) :
    (proseOf inCode ms).filter (IsHeading ·) =
      ((proseOf inCode ls).filter (IsHeading ·)).take (if seen then 0 else 1) := by
  induction h with
  | nil => simp [proseOf]
  | fence hfence _ ih => simpa [proseOf, hfence] using ih
  | code hfence _ ih => simpa [proseOf, hfence] using ih
  | prose hfence hheading _ ih => simpa [proseOf, hfence, hheading] using ih
  | first hfence hheading _ ih => simpa [proseOf, hfence, hheading] using ih
  | further hfence hheading _ ih =>
    simpa [proseOf, hfence, isFence_further, not_isHeading] using ih

theorem codeOf (h : Demotes inCode seen ls ms) : codeOf inCode ms = codeOf inCode ls := by
  induction h with
  | nil => rfl
  | fence hfence _ ih => simp [Markdown.codeOf, hfence, ih]
  | code hfence _ ih => simp [Markdown.codeOf, hfence, ih]
  | prose hfence _ _ ih => simp [Markdown.codeOf, hfence, ih]
  | first hfence _ _ ih => simp [Markdown.codeOf, hfence, ih]
  | further hfence _ _ ih => simp [Markdown.codeOf, hfence, isFence_further, ih]

theorem map_getLast? (h : Demotes inCode seen ls ms) :
    ms.map List.getLast? = ls.map List.getLast? := by
  induction h with
  | nil => rfl
  | fence _ _ ih => simp [ih]
  | code _ _ ih => simp [ih]
  | prose _ _ _ ih => simp [ih]
  | first _ _ _ ih => simp [ih]
  | further _ hheading _ ih =>
    obtain ⟨blanks, rfl, -, htext, -⟩ := heading?_eq_some hheading
    have hlast := fun front : List Char => List.getLast?_append_of_ne_nil front htext
    rw [List.map_cons, List.map_cons, ih]
    exact congrArg (· :: _) ((hlast ['#', '#', ' ']).trans (hlast ('#' :: blanks)).symm)

theorem flatten_subset (h : Demotes inCode seen ls ms) :
    ms.flatten ⊆ '#' :: ' ' :: ls.flatten := by
  induction h with
  | nil => exact List.nil_subset _
  | fence _ _ ih => grind
  | code _ _ ih => grind
  | prose _ _ _ ih => grind
  | first _ _ _ ih => grind
  | further _ hheading _ ih =>
    obtain ⟨blanks, rfl, -, -, -⟩ := heading?_eq_some hheading
    grind

theorem concat_nil (h : Demotes inCode seen ls ms) :
    Demotes inCode seen (ls ++ [[]]) (ms ++ [[]]) := by
  induction h with
  | @nil inCode =>
    cases inCode with
    | false => exact .prose rfl (by rw [isHeading_iff]; rintro ⟨_, ⟨⟩⟩) .nil
    | true => exact .code rfl .nil
  | fence hfence _ ih => exact .fence hfence ih
  | code hfence _ ih => exact .code hfence ih
  | prose hfence hheading _ ih => exact .prose hfence hheading ih
  | first hfence hheading _ ih => exact .first hfence hheading ih
  | further hfence hheading _ ih => exact .further hfence hheading ih

end Demotes

/-- Headings at the second level leave a tidied text so. -/
theorem AreTidied.of_demotes (h : AreTidied ls) (hdemotes : Demotes inCode seen ls ms) :
    AreTidied ms := by
  refine ⟨fun m hm hfeed => ?_, hdemotes.map_getLast? ▸ h.ends⟩
  have hmem := hdemotes.flatten_subset (List.mem_flatten.2 ⟨m, hm, hfeed⟩)
  obtain ⟨l, hl, hfeed⟩ := List.mem_flatten.1 (by simpa using hmem)
  exact h.no_feed l hl hfeed

theorem demoteHeadings_unlines (h : AreTidied ls) :
    demoteHeadings (Text.unlines (ls ++ [[]])) =
      Text.unlines (demote false false ls ++ [[]]) := by
  obtain ⟨l, rest, hls, -⟩ := h.exists_cons
  have hne : ls ≠ [] := hls ▸ List.cons_ne_nil l rest
  have hdemotes := demotes_demote false false ls
  have hout : demote false false ls ≠ [] := fun hnil => by
    have hmap := hdemotes.map_getLast?
    rw [hnil, hls] at hmap
    cases hmap
  have hlines : ls.map Text.dropReturn = ls := by
    conv_rhs => rw [← List.map_id ls]
    refine List.map_congr_left fun l hl => Text.dropReturn_of_getLast?_ne fun hreturn => ?_
    exact absurd (h.getLast? hl hreturn) (by decide)
  rw [demoteHeadings, Text.lineChars_unlines h.no_feed List.not_mem_nil, if_pos rfl,
    List.append_nil, hlines, rejoin, endsLine, Text.unlines_closed hne, List.getLast?_concat,
    beq_self_eq_true, if_pos rfl, Text.unlines_closed hout]

/-- Putting headings to the second level keeps the form, the lines of code and the number of lines,
and leaves at most the first heading of the first level. -/
theorem demoteHeadings_form (h : s = [] ∨ ∃ ls, s = Text.unlines (ls ++ [[]]) ∧ AreTidied ls) :
    (demoteHeadings s = [] ∨ IsTidied (demoteHeadings s)) ∧
    codeLines (demoteHeadings s) = codeLines s ∧
    (Text.splitOn '\n' (demoteHeadings s)).length = (Text.splitOn '\n' s).length ∧
    headings (demoteHeadings s) = (headings s).take 1 := by
  obtain rfl | ⟨ls, rfl, h⟩ := h
  · exact ⟨.inl rfl, rfl, rfl, rfl⟩
  · have hdemotes := demotes_demote false false ls
    have hms := h.of_demotes hdemotes
    have hall := hdemotes.concat_nil
    rw [demoteHeadings_unlines h, codeLines, codeLines, headings, headings, h.splitOn, hms.splitOn]
    refine ⟨.inr hms.isTidied, hall.codeOf, ?_, hall.headings⟩
    have hlength := congrArg List.length hall.map_getLast?
    rwa [List.length_map, List.length_map] at hlength

/-- Tidied texts are in form. So is what the modifier makes of a text, where headings go to the
second level too: the lines of code and the number of lines are then those of the tidied text, and
at most one heading of the first level is left. -/
theorem cleanup_form :
    (∀ (base : Option Url) (s : List Char), tidy base s = [] ∨ IsTidied (tidy base s)) ∧
    ∀ (text : String) (j : Json) (o : CleanupOptions),
      Modifier.options "markdown-cleanup" CleanupOptions.read ⟨none, false⟩ j = .ok o →
      ∃ out, Modifier.markdownCleanup.apply text j = .ok out ∧
        (out.toList = [] ∨ IsTidied out.toList) ∧
        codeLines out.toList = codeLines (tidy (Modifier.base? o.baseUrl) text.toList) ∧
        (Text.splitOn '\n' out.toList).length =
          (Text.splitOn '\n' (tidy (Modifier.base? o.baseUrl) text.toList)).length ∧
        (o.demoteHeadings = true → (headings out.toList).length ≤ 1) := by
  have hform : ∀ (base : Option Url) (s : List Char), tidy base s = [] ∨ IsTidied (tidy base s) :=
    fun base s => (tidy_lines base s).imp_right fun ⟨ls, htidy, hls⟩ => htidy ▸ hls.isTidied
  refine ⟨hform, fun text j o ho => ?_⟩
  have happly : Modifier.markdownCleanup.apply text j =
      .ok (String.ofList (if o.demoteHeadings then
        demoteHeadings (tidy (Modifier.base? o.baseUrl) text.toList)
        else tidy (Modifier.base? o.baseUrl) text.toList)) := by
    rw [Modifier.markdownCleanup]
    dsimp only
    rw [ho]
    rfl
  refine ⟨_, happly, ?_⟩
  rw [String.toList_ofList]
  cases hdemote : o.demoteHeadings with
  | false => exact ⟨hform _ _, rfl, rfl, fun h => nomatch h⟩
  | true =>
    obtain ⟨htidied, hcode, hlength, hheadings⟩ :=
      demoteHeadings_form (tidy_lines (Modifier.base? o.baseUrl) text.toList)
    refine ⟨htidied, hcode, hlength, fun _ => ?_⟩
    rw [if_pos rfl, hheadings]
    exact List.length_take_le 1 _

theorem cleanup_form_of_headings :
    Modifier.options "markdown-cleanup" CleanupOptions.read ⟨none, false⟩
      (.obj [("demoteHeadings", .bool true)]) = .ok ⟨none, true⟩ ∧
    Modifier.markdownCleanup.apply "<div>\r\n# a \n\n\n\n# b\n\x60\x60\x60\n# c\n"
      (.obj [("demoteHeadings", .bool true)]) =
        .ok "# a\n\n## b\n\x60\x60\x60\n# c\n" ∧
    IsTidied "# a\n\n## b\n\x60\x60\x60\n# c\n".toList ∧
    (headings "# a\n\n## b\n\x60\x60\x60\n# c\n".toList).length ≤ 1 := by
  have ho : Modifier.options "markdown-cleanup" CleanupOptions.read ⟨none, false⟩
      (.obj [("demoteHeadings", .bool true)]) = .ok ⟨none, true⟩ := by cbv
  have happly : Modifier.markdownCleanup.apply
      "<div>\r\n# a \n\n\n\n# b\n\x60\x60\x60\n# c\n" (.obj [("demoteHeadings", .bool true)]) =
        .ok "# a\n\n## b\n\x60\x60\x60\n# c\n" := by cbv
  obtain ⟨out, hout, hform, -, -, hheadings⟩ := cleanup_form.2
    "<div>\r\n# a \n\n\n\n# b\n\x60\x60\x60\n# c\n" (.obj [("demoteHeadings", .bool true)])
    ⟨none, true⟩ ho
  cases happly.symm.trans hout
  exact ⟨ho, happly, hform.resolve_left (by decide), hheadings rfl⟩

end Markdown

end ContextCompiler
