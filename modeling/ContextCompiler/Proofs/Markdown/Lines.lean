import ContextCompiler.Markdown.Cleanup
import ContextCompiler.Proofs.Text.Lines

/-!
What a line loses when a text is tidied.

A fence with a marked language loses the mark, a line outside code its wrapper tags. Both lose
something that shows, and a line without either stays as it is. Blanks at its end play no part.
-/

namespace ContextCompiler.Markdown

variable {c : Char} {l s tag rest : List Char}

/-! ## Weight -/

/-- The number of characters of a line that are not blank. -/
def weight (line : List Char) : Nat := line.countP fun c => !Text.isBlank c

theorem weight_append (a b : List Char) : weight (a ++ b) = weight a + weight b :=
  List.countP_append

theorem weight_le_of_sublist (h : l.Sublist s) : weight l ≤ weight s := h.countP_le

theorem weight_dropEndWhile (l : List Char) :
    weight (Text.dropEndWhile Text.isBlank l) = weight l := by
  obtain ⟨back, hl, hback⟩ := Text.exists_append_dropEndWhile Text.isBlank l
  conv_rhs => rw [hl, weight_append]
  have hzero : weight back = 0 := List.countP_eq_zero.2 fun c hc => by simp [hback c hc]
  rw [hzero, Nat.add_zero]

theorem weight_dropReturn (l : List Char) : weight (Text.dropReturn l) = weight l := by
  rw [← weight_dropEndWhile, Text.dropEndWhile_dropReturn, weight_dropEndWhile]

/-! ## Fences -/

theorem isFence_append_blank (h : Text.isBlank c = true) : isFence (l ++ [c]) = isFence l := by
  rw [isFence, isFence, Bool.eq_iff_iff, List.isPrefixOf_iff_prefix, List.isPrefixOf_iff_prefix,
    List.dropWhile_append]
  split
  · next hall =>
    rw [List.isEmpty_iff.1 hall, List.dropWhile_cons_of_pos h]
    rfl
  · rw [List.prefix_concat_iff, or_iff_right]
    intro heq
    have hlast := congrArg List.getLast? heq
    rw [List.getLast?_concat] at hlast
    cases hlast
    cases h

theorem isFence_dropEndWhile (l : List Char) :
    isFence (Text.dropEndWhile Text.isBlank l) = isFence l := by
  induction l using List.reverseRecOn with
  | nil => rfl
  | append_singleton l c ih =>
    by_cases hc : Text.isBlank c = true
    · rw [Text.dropEndWhile_append_of_pos hc, ih, isFence_append_blank hc]
    · rw [Text.dropEndWhile_append_of_neg (by simpa using hc)]

theorem isFence_dropReturn (l : List Char) : isFence (Text.dropReturn l) = isFence l := by
  rw [← isFence_dropEndWhile, Text.dropEndWhile_dropReturn, isFence_dropEndWhile]

theorem isFence_ticks_append (s : List Char) : isFence (ticks ++ s) = true := rfl

/-! ## Languages -/

/-- A fence whose language has a mark before it. -/
def IsMarked (line : List Char) : Prop :=
  ∃ mark ∈ languageMarks, ∃ c, Text.isWordChar c = true ∧ ticks ++ mark ++ [c] <+: line

theorem plainLanguage_of_not_isMarked (h : ¬ IsMarked l) : plainLanguage l = l := by
  unfold plainLanguage
  split
  · rfl
  · next hrest =>
    rw [Text.dropPrefix?_eq_some_iff] at hrest
    split
    · next c name hname =>
      split
      · next hc =>
        obtain ⟨mark, hmark, hdrop⟩ := List.exists_of_findSome?_eq_some hname
        rw [Text.dropPrefix?_eq_some_iff] at hdrop
        refine absurd ⟨mark, hmark, c, hc, name, ?_⟩ h
        rw [hrest, hdrop]
        simp
      · rfl
    · rfl

theorem plainLanguage_of_isMarked (h : IsMarked l) :
    ∃ mark ∈ languageMarks, ∃ s, l = ticks ++ mark ++ s ∧ plainLanguage l = ticks ++ s := by
  obtain ⟨mark, hmark, c, hc, name, rfl⟩ := h
  refine ⟨mark, hmark, c :: name, by simp, ?_⟩
  have hfind : languageMarks.findSome? (fun m => Text.dropPrefix? m (mark ++ c :: name)) =
      some (c :: name) := by
    simp only [languageMarks, List.mem_cons, List.not_mem_nil, or_false] at hmark
    rcases hmark with rfl | rfl | rfl <;> rfl
  have hticks : Text.dropPrefix? ticks (ticks ++ mark ++ [c] ++ name) =
      some (mark ++ c :: name) :=
    Text.dropPrefix?_eq_some_iff.2 (by simp)
  rw [plainLanguage, hticks]
  dsimp only
  rw [hfind]
  exact if_pos hc

theorem plainLanguage_sublist (l : List Char) : (plainLanguage l).Sublist l := by
  by_cases h : IsMarked l
  · obtain ⟨mark, -, s, hl, heq⟩ := plainLanguage_of_isMarked h
    rw [heq, hl, List.append_assoc]
    exact (List.sublist_append_right mark s).append_left ticks
  · rw [plainLanguage_of_not_isMarked h]

theorem weight_plainLanguage_lt (h : IsMarked l) : weight (plainLanguage l) < weight l := by
  obtain ⟨mark, hmark, s, hl, heq⟩ := plainLanguage_of_isMarked h
  have hpos : ∀ m ∈ languageMarks, 0 < weight m := by decide
  have := hpos mark hmark
  rw [heq, hl]
  simp only [weight_append]
  omega

theorem plainLanguage_ne_iff : plainLanguage l ≠ l ↔ IsMarked l :=
  ⟨fun h => by_contra fun hmarked => h (plainLanguage_of_not_isMarked hmarked),
    fun h heq => absurd (weight_plainLanguage_lt h) (by rw [heq]; exact Nat.lt_irrefl _)⟩

instance : DecidablePred IsMarked := fun _ => decidable_of_iff _ plainLanguage_ne_iff

theorem isFence_plainLanguage (l : List Char) : isFence (plainLanguage l) = isFence l := by
  by_cases h : IsMarked l
  · obtain ⟨mark, -, s, hl, heq⟩ := plainLanguage_of_isMarked h
    rw [heq, hl, List.append_assoc, isFence_ticks_append, isFence_ticks_append]
  · rw [plainLanguage_of_not_isMarked h]

theorem isMarked_dropReturn : IsMarked (Text.dropReturn l) ↔ IsMarked l := by
  rcases Text.eq_dropReturn_or l with heq | heq
  · rw [← heq]
  · conv_rhs => rw [heq]
    refine exists_congr fun mark => and_congr_right fun _ => exists_congr fun c =>
      and_congr_right fun hc => ?_
    rw [List.prefix_concat_iff, or_iff_right]
    intro h
    have hlast := congrArg List.getLast? h
    rw [List.getLast?_concat, List.getLast?_concat] at hlast
    cases hlast
    cases hc

/-! ## Wrapper tags -/

/-- What may stand between the name of an element and the end of its tag. -/
def IsAttributes (attributes : List Char) : Prop :=
  attributes = [] ∨
    ∃ c more, attributes = c :: more ∧ Text.isBlank c = true ∧ '>' ∉ more

/-- A tag that opens or closes an element that only wraps others. -/
def IsWrapperTag (tag : List Char) : Prop :=
  ∃ slash name attributes, (slash = [] ∨ slash = ['/']) ∧ name ∈ wrapperNames ∧
    IsAttributes attributes ∧ tag = '<' :: (slash ++ name ++ attributes ++ ['>'])

/-- A line with a wrapper tag somewhere in it. -/
def HasWrapper (line : List Char) : Prop := ∃ tag, IsWrapperTag tag ∧ tag <:+: line

/-- What follows the name of an element in a tag of it. -/
def tagEnd? (name s : List Char) : Option (List Char) :=
  match Text.dropPrefix? name s with
  | some ('>' :: rest) => some rest
  | some (c :: rest) =>
    if Text.isBlank c then
      match rest.dropWhile (· != '>') with
      | _ :: rest => some rest
      | [] => none
    else none
  | _ => none

theorem tagEnd?_eq_some {name : List Char} (h : tagEnd? name s = some rest) :
    ∃ attributes, IsAttributes attributes ∧ s = name ++ attributes ++ '>' :: rest := by
  unfold tagEnd? at h
  split at h
  · next hdrop =>
    cases h
    exact ⟨[], .inl rfl, by simpa using Text.dropPrefix?_eq_some_iff.1 hdrop⟩
  · next c more _ hdrop =>
    rw [Text.dropPrefix?_eq_some_iff] at hdrop
    split at h
    · next hc =>
      split at h
      · next d tail htail =>
        cases h
        have hd : d = '>' := by
          have hhead := List.head?_dropWhile_not (· != '>') more
          simpa [htail] using hhead
        refine ⟨c :: more.takeWhile (· != '>'), .inr ⟨c, _, rfl, hc, fun hmem => ?_⟩, ?_⟩
        · simpa using List.mem_takeWhile_imp hmem
        · have hmore := List.takeWhile_append_dropWhile (p := (· != '>')) (l := more)
          rw [htail, hd] at hmore
          conv_lhs => rw [hdrop, ← hmore]
          simp
      · cases h
    · cases h
  · cases h

theorem tagEnd?_append {name attributes : List Char} (h : IsAttributes attributes)
    (rest : List Char) : tagEnd? name (name ++ attributes ++ '>' :: rest) = some rest := by
  rw [tagEnd?, List.append_assoc, Text.dropPrefix?_eq_some_iff.2 rfl]
  obtain rfl | ⟨c, more, rfl, hc, hmore⟩ := h
  · rfl
  · have hne : c ≠ '>' := by
      rintro rfl
      cases hc
    have hdrop : (more ++ '>' :: rest).dropWhile (· != '>') = '>' :: rest := by
      have hall : ∀ d ∈ more, (d != '>') = true := fun d hd =>
        bne_iff_ne.2 fun e => hmore (e ▸ hd)
      rw [List.dropWhile_append_of_pos hall]
      rfl
    rw [List.cons_append]
    split
    · next heq => exact absurd (List.cons.inj (Option.some.inj heq)).1 hne
    · next heq =>
      cases heq
      rw [if_pos hc, hdrop]
    · next h => exact absurd rfl (h _ _)

theorem wrapperTag?_cons (s : List Char) :
    wrapperTag? ('<' :: s) = wrapperNames.findSome? fun name =>
      tagEnd? name (match s with | '/' :: s => s | s => s) := rfl

theorem wrapperTag?_eq_some (h : wrapperTag? s = some rest) :
    ∃ tag, IsWrapperTag tag ∧ s = tag ++ rest := by
  obtain ⟨t, rfl⟩ : ∃ t, s = '<' :: t := by
    unfold wrapperTag? at h
    split at h
    · exact ⟨_, rfl⟩
    · cases h
  rw [wrapperTag?_cons] at h
  obtain ⟨name, hname, hend⟩ := List.exists_of_findSome?_eq_some h
  obtain ⟨attributes, hattributes, ht⟩ := tagEnd?_eq_some hend
  split at ht
  · next t =>
    exact ⟨_, ⟨['/'], name, attributes, .inr rfl, hname, hattributes, rfl⟩, by simp [ht]⟩
  · exact ⟨_, ⟨[], name, attributes, .inl rfl, hname, hattributes, rfl⟩, by simp [ht]⟩

theorem wrapperTag?_append (h : IsWrapperTag tag) (rest : List Char) :
    (wrapperTag? (tag ++ rest)).isSome := by
  obtain ⟨slash, name, attributes, hslash, hname, hattributes, rfl⟩ := h
  have hopen : ∀ n ∈ wrapperNames, n.head? ≠ some '/' ∧ n ≠ [] := by decide
  have hend : (tagEnd? name (name ++ (attributes ++ '>' :: rest))).isSome := by
    rw [← List.append_assoc, tagEnd?_append hattributes]
    rfl
  rw [List.cons_append, wrapperTag?_cons, List.findSome?_isSome_iff]
  refine ⟨name, hname, ?_⟩
  obtain rfl | rfl := hslash
  · obtain ⟨c, more, rfl⟩ := List.exists_cons_of_ne_nil (hopen name hname).2
    have hc : c ≠ '/' := by simpa using (hopen _ hname).1
    split
    · next heq => exact absurd (List.cons.inj heq).1 hc
    · simpa using hend
  · simpa using hend

theorem hasWrapper_cons_iff : HasWrapper (c :: s) ↔
    (wrapperTag? (c :: s)).isSome ∨ HasWrapper s := by
  unfold HasWrapper
  constructor
  · rintro ⟨tag, htag, hin⟩
    refine (List.infix_cons_iff.1 hin).imp ?_ fun h => ⟨tag, htag, h⟩
    rintro ⟨rest, heq⟩
    exact heq ▸ wrapperTag?_append htag rest
  · rintro (h | ⟨tag, htag, hin⟩)
    · obtain ⟨rest, hrest⟩ := Option.isSome_iff_exists.1 h
      obtain ⟨tag, htag, heq⟩ := wrapperTag?_eq_some hrest
      exact ⟨tag, htag, heq ▸ (List.prefix_append tag rest).isInfix⟩
    · exact ⟨tag, htag, List.infix_cons hin⟩

theorem dropWrappersAux_sublist (fuel : Nat) (s : List Char) :
    (dropWrappersAux fuel s).Sublist s := by
  fun_induction dropWrappersAux fuel s with
  | case1 => exact .refl _
  | case2 => exact .refl _
  | case3 fuel c s rest hrest ih =>
    obtain ⟨tag, -, heq⟩ := wrapperTag?_eq_some hrest
    exact heq ▸ ih.trans (List.sublist_append_right tag rest)
  | case4 fuel c s _ ih => exact ih.cons_cons c

theorem dropWrappersAux_of_not_hasWrapper {fuel : Nat} (h : ¬ HasWrapper s) :
    dropWrappersAux fuel s = s := by
  fun_induction dropWrappersAux fuel s with
  | case1 => rfl
  | case2 => rfl
  | case3 fuel c s rest hrest ih =>
    exact absurd (hasWrapper_cons_iff.2 (.inl (by rw [hrest]; rfl))) h
  | case4 fuel c s _ ih => rw [ih fun hs => h (hasWrapper_cons_iff.2 (.inr hs))]

theorem weight_dropWrappersAux_lt {fuel : Nat} (hfuel : s.length < fuel) (h : HasWrapper s) :
    weight (dropWrappersAux fuel s) < weight s := by
  fun_induction dropWrappersAux fuel s with
  | case1 => cases hfuel
  | case2 =>
    obtain ⟨tag, ⟨slash, name, attributes, -, -, -, rfl⟩, hin⟩ := h
    cases List.infix_nil.1 hin
  | case3 fuel c s rest hrest ih =>
    obtain ⟨tag, htag, heq⟩ := wrapperTag?_eq_some hrest
    have hle := weight_le_of_sublist (dropWrappersAux_sublist fuel rest)
    have hpos : 0 < weight tag := by
      obtain ⟨slash, name, attributes, -, -, -, rfl⟩ := htag
      exact List.countP_pos_iff.2 ⟨'<', List.mem_cons_self, by decide⟩
    rw [heq, weight_append]
    omega
  | case4 fuel c s hnone ih =>
    have hs := (hasWrapper_cons_iff.1 h).resolve_left (by rw [hnone]; exact Bool.false_ne_true)
    have hlt := ih (Nat.lt_of_succ_lt_succ hfuel) hs
    rw [weight, weight, List.countP_cons, List.countP_cons]
    exact Nat.add_lt_add_right hlt _

theorem dropWrappers_sublist (l : List Char) : (dropWrappers l).Sublist l :=
  dropWrappersAux_sublist _ l

theorem dropWrappers_of_not_hasWrapper (h : ¬ HasWrapper l) : dropWrappers l = l :=
  dropWrappersAux_of_not_hasWrapper h

theorem weight_dropWrappers_lt (h : HasWrapper l) : weight (dropWrappers l) < weight l :=
  weight_dropWrappersAux_lt (Nat.lt_succ_self _) h

theorem dropWrappers_ne_iff : dropWrappers l ≠ l ↔ HasWrapper l :=
  ⟨fun h => by_contra fun hwrapper => h (dropWrappers_of_not_hasWrapper hwrapper),
    fun h heq => absurd (weight_dropWrappers_lt h) (by rw [heq]; exact Nat.lt_irrefl _)⟩

instance : DecidablePred HasWrapper := fun _ => decidable_of_iff _ dropWrappers_ne_iff

theorem hasWrapper_dropReturn : HasWrapper (Text.dropReturn l) ↔ HasWrapper l := by
  rcases Text.eq_dropReturn_or l with heq | heq
  · rw [← heq]
  · conv_rhs => rw [heq]
    refine exists_congr fun tag => and_congr_right fun htag => ?_
    rw [List.infix_concat_iff, or_iff_right]
    obtain ⟨slash, name, attributes, -, -, -, rfl⟩ := htag
    rintro ⟨front, h⟩
    have hlast := congrArg List.getLast? h
    rw [List.getLast?_concat, ← List.cons_append, ← List.append_assoc,
      List.getLast?_concat] at hlast
    cases hlast

end ContextCompiler.Markdown
