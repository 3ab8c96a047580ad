import ContextCompiler.Proofs.Markdown.Spared
import ContextCompiler.Render.Block

/-!
What is left of a file's content when its block is tidied.

The fence around a content is longer than all runs of backticks in it, so none of its lines reads
like the fence. But tidying takes every line that starts with three backticks for a fence, whatever
code is open. So inner fences count, and what stands between them is outside code.
-/

namespace ContextCompiler.Render

variable {s body l back : List Char} {path content lang : String} {n : Nat}

/-! ## Runs of backticks -/

theorem snd_le_foldl_tickStep (runs : Nat × Nat) (s : List Char) :
    runs.2 ≤ (s.foldl tickStep runs).2 := by
  induction s generalizing runs with
  | nil => exact Nat.le_refl _
  | cons c s ih =>
    refine Nat.le_trans ?_ (ih _)
    unfold tickStep
    split
    · exact Nat.le_max_left _ _
    · exact Nat.le_refl _

theorem add_le_foldl_tickStep (n : Nat) (runs : Nat × Nat) (h : runs.1 ≤ runs.2) :
    runs.1 + n ≤ ((List.replicate n '\x60').foldl tickStep runs).2 := by
  induction n generalizing runs with
  | zero => exact h
  | succ n ih =>
    have hstep := ih (tickStep runs '\x60') (Nat.le_max_right _ _)
    have hrun : (tickStep runs '\x60').1 = runs.1 + 1 := rfl
    rw [List.replicate_succ, List.foldl_cons]
    omega

theorem foldl_tickStep_le (runs : Nat × Nat) (h : runs.1 ≤ runs.2) (s : List Char) :
    (s.foldl tickStep runs).1 ≤ (s.foldl tickStep runs).2 := by
  induction s generalizing runs with
  | nil => exact h
  | cons c s ih =>
    refine ih _ ?_
    unfold tickStep
    split
    · exact Nat.le_max_right _ _
    · exact Nat.zero_le _

/-- No run of backticks in a text is longer than the longest. -/
theorem le_longestTicks (h : List.replicate n '\x60' <:+: s) : n ≤ longestTicks s := by
  obtain ⟨front, back, rfl⟩ := h
  rw [longestTicks, List.foldl_append, List.foldl_append]
  refine Nat.le_trans ?_ (snd_le_foldl_tickStep _ back)
  exact Nat.le_trans (Nat.le_add_left n _)
    (add_le_foldl_tickStep n _ (foldl_tickStep_le _ (Nat.le_refl 0) front))

/-- A text does not have its own fence in it. -/
theorem not_fenceFor_infix (content : String) :
    ¬ (fenceFor content).toList <:+: content.toList := by
  intro h
  rw [fenceFor, String.toList_ofList] at h
  have := le_longestTicks h
  omega

/-! ## The lines of a block -/

theorem mem_languageOf (path : String) : languageOf path ∈ "" :: languages.map Prod.snd := by
  unfold languageOf
  split
  · exact List.mem_cons_self
  · dsimp only
    split
    · next hfind =>
      exact List.mem_cons_of_mem _ (List.mem_map_of_mem (List.mem_of_find?_eq_some hfind))
    · exact List.mem_cons_self

theorem exists_fenceFor_eq (content : String) :
    ∃ more, (fenceFor content).toList = Markdown.ticks ++ List.replicate more '\x60' := by
  refine ⟨max (longestTicks content.toList) 2 - 2, ?_⟩
  rw [fenceFor, String.toList_ofList]
  change _ = List.replicate 3 '\x60' ++ _
  rw [List.replicate_append_replicate]
  congr 1
  omega

/-- A fence with a language after it, or with nothing. -/
def IsFenceLine (line : List Char) : Prop :=
  ∃ more, ∃ lang ∈ "" :: languages.map Prod.snd,
    line = Markdown.ticks ++ (List.replicate more '\x60' ++ lang.toList)

theorem isFenceLine_fenceFor (content : String) : IsFenceLine (fenceFor content).toList := by
  obtain ⟨more, h⟩ := exists_fenceFor_eq content
  exact ⟨more, "", List.mem_cons_self, by rw [h]; simp⟩

theorem isFenceLine_fenceFor_append (path content : String) :
    IsFenceLine (fenceFor content ++ languageOf path).toList := by
  obtain ⟨more, h⟩ := exists_fenceFor_eq content
  exact ⟨more, _, mem_languageOf path, by rw [String.toList_append, h, List.append_assoc]⟩

theorem IsFenceLine.isFence (h : IsFenceLine l) : Markdown.isFence l = true := by
  obtain ⟨more, lang, -, rfl⟩ := h
  exact Markdown.isFence_ticks_append _

theorem IsFenceLine.isBlank_eq_false (h : IsFenceLine l) : ∀ c ∈ l, Text.isBlank c = false := by
  have hlanguages : ("" :: languages.map Prod.snd).all (fun lang =>
      lang.toList.all fun c => !Text.isBlank c) = true := by decide
  obtain ⟨more, lang, hlang, rfl⟩ := h
  intro c hc
  simp only [Markdown.ticks, List.mem_append, List.mem_cons, List.not_mem_nil, or_false,
    or_self] at hc
  rcases hc with rfl | hc | hc
  · decide
  · rw [List.eq_of_mem_replicate hc]
    decide
  · simpa using List.all_eq_true.1 (List.all_eq_true.1 hlanguages lang hlang) c hc

theorem IsFenceLine.not_isMarked (h : IsFenceLine l) : ¬ Markdown.IsMarked l := by
  have hlanguages : ∀ lang ∈ "" :: languages.map Prod.snd, ∀ mark ∈ Markdown.languageMarks,
      ¬ mark <+: lang.toList := by decide
  have hmarks : ∀ mark ∈ Markdown.languageMarks, mark ≠ [] ∧ mark.head? ≠ some '\x60' := by decide
  obtain ⟨more, lang, hlang, rfl⟩ := h
  rintro ⟨mark, hmark, c, -, hprefix⟩
  rw [List.append_assoc, List.prefix_append_right_inj] at hprefix
  have hmark' := (List.prefix_append mark [c]).trans hprefix
  cases more with
  | zero => exact hlanguages lang hlang mark hmark hmark'
  | succ more =>
    obtain ⟨d, rest, rfl⟩ := List.exists_cons_of_ne_nil (hmarks mark hmark).1
    obtain ⟨rest', heq⟩ := hmark'
    exact (hmarks _ hmark).2 (by rw [List.head?_cons, (List.cons.inj heq).1])

/-- The lines of a block. -/
def blockLines (path content : String) : List (List Char) :=
  ("### " ++ path).toList :: [] :: (fenceFor content ++ languageOf path).toList ::
    (Text.splitOn '\n' (Text.dropEndWhile (· == '\n') content.toList) ++
      [(fenceFor content).toList])

theorem toList_fileBlock (path content : String) :
    (fileBlock path content).toList = Text.unlines (blockLines path content ++ [[]]) := by
  have hbody : Text.unlines (Text.splitOn '\n' (Text.dropEndWhile (· == '\n') content.toList)) =
      Text.dropEndWhile (· == '\n') content.toList := Text.joinWith_splitOn _ _
  rw [blockLines, List.cons_append, Text.unlines_cons (by simp), List.cons_append,
    Text.unlines_cons (by simp), List.cons_append, Text.unlines_cons (by simp),
    Text.unlines_closed (by simp), Text.unlines, Text.joinWith_concat (Text.splitOn_ne_nil _ _),
    ← Text.unlines, hbody]
  simp [fileBlock, String.toList_append]

theorem not_mem_of_mem_blockLines (hpath : '\n' ∉ path.toList) :
    ∀ l ∈ blockLines path content, '\n' ∉ l := by
  have hfence : ∀ l, IsFenceLine l → '\n' ∉ l := fun l hl hc => by
    have := hl.isBlank_eq_false _ hc
    cases this
  intro l hl
  simp only [blockLines, List.mem_cons, List.mem_append, List.not_mem_nil, or_false] at hl
  rcases hl with rfl | rfl | rfl | hl | rfl
  · rw [String.toList_append, List.mem_append, not_or]
    exact ⟨by decide, hpath⟩
  · exact List.not_mem_nil
  · exact hfence _ (isFenceLine_fenceFor_append path content)
  · exact Text.not_mem_of_mem_splitOn hl
  · exact hfence _ (isFenceLine_fenceFor content)

/-! ## Tidying a block -/

theorem IsFenceLine.dropEndWhile (h : IsFenceLine l) : Text.dropEndWhile Text.isBlank l = l :=
  Text.dropEndWhile_eq_self fun c hc => h.isBlank_eq_false c (List.mem_of_getLast? hc)

theorem IsFenceLine.tidyLine (h : IsFenceLine l) (inCode : Bool) :
    Markdown.tidyLine inCode l = l := by
  have hreturn : Text.dropReturn l = l := Text.dropReturn_of_getLast?_ne fun hlast => by
    have := h.isBlank_eq_false _ (List.mem_of_getLast? hlast)
    cases this
  rw [Markdown.tidyLine, h.isFence, Bool.or_true, if_pos rfl,
    Markdown.prepared_of_not_isMarked h.not_isMarked, hreturn, hreturn]

theorem IsFenceLine.shown_cons (h : IsFenceLine l) (ls : List (List Char)) :
    Text.shown (l :: ls) = l :: Text.shown ls := by
  rw [Text.shown_cons, h.dropEndWhile, if_neg]
  rintro rfl
  cases h.isFence

/-- A fence at the end of lines stays there. -/
theorem IsFenceLine.tidyLines_append (h : IsFenceLine l) (inCode : Bool)
    (ls : List (List Char)) :
    Markdown.tidyLines inCode (ls ++ [l]) = Markdown.tidyLines inCode ls ++ [l] := by
  induction ls generalizing inCode with
  | nil =>
    rw [List.nil_append, Markdown.tidyLines_cons, h.tidyLine]
    rfl
  | cons m ls ih =>
    rw [List.cons_append, Markdown.tidyLines_cons, ih, Markdown.tidyLines_cons, List.cons_append]

/-- A heading stays a line that starts with a hash. -/
theorem exists_heading (inCode : Bool) (l : List Char) : ∃ t,
    Text.dropEndWhile Text.isBlank (Markdown.tidyLine inCode ('#' :: l)) = '#' :: t := by
  have hmarked : ¬ Markdown.IsMarked ('#' :: l) := fun hmarked => by
    cases Markdown.isFence_of_isMarked hmarked
  have hprepared : Markdown.prepared ('#' :: l) =
      '#' :: Text.dropReturn (Text.dropReturn l) := by
    rw [Markdown.prepared_of_not_isMarked hmarked, Text.dropReturn_cons (by simp),
      Text.dropReturn_cons (by simp)]
  obtain ⟨t, ht⟩ : ∃ t, Markdown.tidyLine inCode ('#' :: l) = '#' :: t := by
    rw [Markdown.tidyLine, hprepared]
    split
    · exact ⟨_, rfl⟩
    · exact ⟨_, rfl⟩
  rw [ht]
  obtain ⟨back, heq, hback⟩ := Text.exists_append_dropEndWhile Text.isBlank ('#' :: t)
  cases hkept : Text.dropEndWhile Text.isBlank ('#' :: t) with
  | nil =>
    rw [hkept, List.nil_append] at heq
    cases hback '#' (heq ▸ List.mem_cons_self)
  | cons c kept =>
    rw [hkept] at heq
    exact ⟨kept, by rw [(List.cons.inj heq).1]⟩

/-- What is shown of a tidied block: a heading, the fences, and what is left of the content. -/
theorem shownLines_tidy_fileBlock (hpath : '\n' ∉ path.toList) (content : String) : ∃ heading,
    Text.shownLines (Markdown.tidy none (fileBlock path content).toList) =
      ('#' :: heading) :: (fenceFor content ++ languageOf path).toList ::
        (Text.shown (Markdown.tidyLines true
          (Text.splitOn '\n' (Text.dropEndWhile (· == '\n') content.toList))) ++
            [(fenceFor content).toList]) := by
  obtain ⟨heading, hheading⟩ := exists_heading false ("## " ++ path).toList
  have hfence := isFenceLine_fenceFor content
  have hopen := isFenceLine_fenceFor_append path content
  have hhead : ("### " ++ path).toList = '#' :: ("## " ++ path).toList := by
    simp [String.toList_append]
  have hlines : Markdown.tidyLines false (blockLines path content) =
      Markdown.tidyLine false ('#' :: ("## " ++ path).toList) :: [] ::
        (fenceFor content ++ languageOf path).toList ::
          (Markdown.tidyLines true
            (Text.splitOn '\n' (Text.dropEndWhile (· == '\n') content.toList)) ++
              [(fenceFor content).toList]) := by
    rw [blockLines, Markdown.tidyLines_cons, Markdown.tidyLines_cons, Markdown.tidyLines_cons,
      hopen.tidyLine, hopen.isFence, hfence.tidyLines_append, hhead]
    rfl
  have hstart : ∀ c ∈ (Text.unlines ((Markdown.tidyLines false (blockLines path content)).map
      (Text.dropEndWhile Text.isBlank))).head?, Text.isBlank c = false := by
    rw [hlines, List.map_cons, hheading, Text.head?_unlines]
    rintro _ ⟨⟩
    decide
  refine ⟨heading, ?_⟩
  rw [toList_fileBlock, Markdown.shownLines_tidy (not_mem_of_mem_blockLines hpath) hstart, hlines,
    Text.shown_cons, hheading,
    if_neg (List.cons_ne_nil _ _), Text.shown_nil_cons, hopen.shown_cons,
    Text.shown_append, hfence.shown_cons, Text.shown_nil]

/-- What a content shows does not have the fences of its block among it. -/
theorem ne_fence_of_mem_shownLines (path : String) (h : l ∈ Text.shownLines content.toList) :
    l ≠ (fenceFor content).toList ∧ l ≠ (fenceFor content ++ languageOf path).toList := by
  have hin := Text.infix_of_mem_shownLines h
  constructor
  · rintro rfl
    exact not_fenceFor_infix content hin
  · rintro rfl
    rw [String.toList_append] at hin
    exact not_fenceFor_infix content ((List.prefix_append _ _).isInfix.trans hin)

theorem filter_ne_sublist (m opening closing : List Char) (ls : List (List Char)) :
    ((m :: opening :: (ls ++ [closing])).filter fun l => l ≠ closing ∧ l ≠ opening).Sublist
      (m :: ls) := by
  have heq : (m :: opening :: (ls ++ [closing])).filter (fun l => l ≠ closing ∧ l ≠ opening) =
      (m :: ls).filter fun l => l ≠ closing ∧ l ≠ opening := by
    simp [List.filter_cons]
  rw [heq]
  exact List.filter_sublist

theorem shownLines_body (content : String) :
    Text.shownLines (Text.dropEndWhile (· == '\n') content.toList) =
      Text.shownLines content.toList := by
  obtain ⟨back, heq, hback⟩ := Text.exists_append_dropEndWhile (· == '\n') content.toList
  conv_rhs => rw [heq]
  refine (Text.shownLines_append_blanks fun c hc => ?_).symm
  rw [beq_iff_eq.1 (hback c hc)]
  decide

theorem areSpared_append_feeds (hback : ∀ c ∈ back, (c == '\n') = true) :
    Markdown.AreSpared true (Text.splitOn '\n' (s ++ back)) ↔
      Markdown.AreSpared true (Text.splitOn '\n' s) := by
  induction back using List.reverseRecOn with
  | nil => rw [List.append_nil]
  | append_singleton back c ih =>
    rw [beq_iff_eq.1 (hback c (by simp)), ← List.append_assoc, Text.splitOn_append_cons]
    exact Markdown.areSpared_concat_nil.trans (ih fun d hd => hback d (List.mem_append_left _ hd))

/-- The shown lines of a content are all found in its tidied block, one after the other, exactly
when they are spared in code. -/
theorem sublist_tidy_iff_areSpared (hpath : '\n' ∉ path.toList) (content : String) :
    (Text.shownLines content.toList).Sublist
        (Text.shownLines (Markdown.tidy none (fileBlock path content).toList)) ↔
      Markdown.AreSpared true (Text.splitOn '\n' content.toList) := by
  obtain ⟨heading, hshown⟩ := shownLines_tidy_fileBlock hpath content
  obtain ⟨back, heq, hback⟩ := Text.exists_append_dropEndWhile (· == '\n') content.toList
  have hbody := shownLines_body content
  rw [hshown]
  conv_rhs => rw [heq, areSpared_append_feeds hback]
  constructor
  · intro hsub
    refine Markdown.areSpared_of_sublist (h := '#' :: heading) rfl ?_
    rw [← Text.shownLines, hbody]
    -- the fences of the block are no lines of the content, so they may be left out
    have hkept := hsub.filter fun l =>
      l ≠ (fenceFor content).toList ∧ l ≠ (fenceFor content ++ languageOf path).toList
    rw [List.filter_eq_self.2 fun l hl =>
      decide_eq_true (ne_fence_of_mem_shownLines path hl)] at hkept
    exact hkept.trans (filter_ne_sublist _ _ _ _)
  · intro hspared
    rw [Markdown.shown_tidyLines hspared, ← Text.shownLines, hbody]
    exact (((List.sublist_append_left _ _).cons _).cons _)

/-- All that a content shows is found in its tidied block, line by line and in order, exactly when
no line of it is a fence with a marked language, and none that stands after an odd number of fences
and is no fence itself has a wrapper tag. -/
theorem sublist_tidy_fileBlock_iff (hpath : '\n' ∉ path.toList) (content : String) :
    (Text.shownLines content.toList).Sublist
        (Text.shownLines (Markdown.tidy none (fileBlock path content).toList)) ↔
      ∀ front line back, Text.splitOn '\n' content.toList = front ++ line :: back →
        ¬ Markdown.IsMarked line ∧
          (Odd (front.countP Markdown.isFence) → Markdown.isFence line = false →
            ¬ Markdown.HasWrapper line) := by
  rw [sublist_tidy_iff_areSpared hpath, Markdown.areSpared_true_iff]

/-- Fences in a content, of which the block takes none for its own. -/
def fenced : String := "a <div>\n\x60\x60\x60rust\n<b>\n\x60\x60\x60\n"

theorem fenced_sublist :
    (Text.shownLines fenced.toList).Sublist
      (Text.shownLines (Markdown.tidy none (fileBlock "a.md" fenced).toList)) := by
  have hspared : Markdown.AreSpared true (Text.splitOn '\n' fenced.toList) := by decide
  exact (sublist_tidy_fileBlock_iff (by decide) fenced).2 (Markdown.areSpared_true_iff.1 hspared)

/-- A single fence in a content opens what stands after it to the pass over wrapper tags. -/
theorem tidy_drops_tag_after_fence :
    ¬ ∀ path content : String, '\n' ∉ path.toList → (Text.shownLines content.toList).Sublist
      (Text.shownLines (Markdown.tidy none (fileBlock path content).toList)) := by
  intro h
  have hlost := h "a.md" "\x60\x60\x60\n<div>x\n\x60\x60\x60\n" (by decide)
  revert hlost
  decide

end ContextCompiler.Render
