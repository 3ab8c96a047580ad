import ContextCompiler.Proofs.Markdown.Lines

/-!
Tidying as work on lines.

Of a text of closed lines that starts with something shown, what is shown afterwards comes from its
lines one by one: fences lose the marks of their languages, and lines outside code their wrapper
tags.
-/

namespace ContextCompiler.Markdown

variable {l s a : List Char} {ls : List (List Char)} {f : List Char → List Char}

/-! ## Passes over the whole text -/

/-- Line feeds that follow others do not show, and so may be left out. Where some were kept right
before, a line starts, so nothing stands in front. -/
theorem shownLines_collapseFeeds {n : Nat} (h : n = 0 ∨ a = []) :
    Text.shownLines (a ++ collapseFeeds n s) = Text.shownLines (a ++ s) := by
  induction s generalizing n a with
  | nil => rfl
  | cons c s ih =>
    rw [collapseFeeds]
    by_cases hc : c = '\n'
    · rw [hc, beq_self_eq_true, if_pos rfl, Text.shownLines_append_feed]
      have hrest : ∀ m, Text.shownLines (collapseFeeds m s) = Text.shownLines s := fun m =>
        ih (.inr rfl)
      split
      · rw [Text.shownLines_append_feed, hrest]
      · next hn =>
        obtain rfl := h.resolve_left (by omega)
        rw [List.nil_append, hrest]
        rfl
    · rw [if_neg (by simpa using hc)]
      have hmore := ih (n := 0) (a := a ++ [c]) (.inl rfl)
      rwa [List.append_assoc, List.append_assoc] at hmore

/-- Closing a text takes nothing from it that is shown, if it starts with something shown. -/
theorem shownLines_closed (h : ∀ c ∈ s.head?, Text.isBlank c = false) :
    Text.shownLines (closed s) = Text.shownLines s := by
  have hstart : s.dropWhile Text.isBlank = s := by
    cases s with
    | nil => rfl
    | cons c s => exact List.dropWhile_cons_of_neg (by simp [h c rfl])
  obtain ⟨back, hs, hback⟩ := Text.exists_append_dropEndWhile Text.isBlank s
  have hshown : Text.shownLines (Text.dropEndWhile Text.isBlank s) = Text.shownLines s := by
    conv_rhs => rw [hs, Text.shownLines_append_blanks hback]
  rw [closed, Text.trimWhile, hstart, ← hshown]
  split
  · next hnil => rw [hnil]
  · exact Text.shownLines_append_blank (by decide)

/-- Blanks at the ends of lines, and the end of the last line, do not show. -/
theorem shownLines_trimLineEnds (s : List Char) :
    Text.shownLines (trimLineEnds s) = Text.shownLines s := by
  have hlines := Text.not_mem_map (Text.dropEndWhile_subset Text.isBlank)
    fun l => Text.not_mem_of_mem_lineChars (l := l) (s := s)
  rw [trimLineEnds, Text.shownLines_unlines hlines, Text.shown_map_dropEndWhile,
    Text.shown_lineChars]

theorem head?_collapseFeeds (s : List Char) : (collapseFeeds 0 s).head? = s.head? := by
  cases s with
  | nil => rfl
  | cons c s =>
    rw [collapseFeeds, if_pos Nat.two_pos]
    split <;> rfl

/-! ## Line by line -/

/-- A line as it comes to the pass over wrapper tags. -/
def prepared (line : List Char) : List Char :=
  Text.dropReturn (plainLanguage (Text.dropReturn line))

/-- The lines after the passes that work on lines. -/
def tidyLines (inCode : Bool) (ls : List (List Char)) : List (List Char) :=
  mapOutside dropWrappers inCode (ls.map prepared)

theorem prepared_subset (l : List Char) : prepared l ⊆ l :=
  List.Subset.trans (Text.dropReturn_subset _)
    (List.Subset.trans (plainLanguage_sublist _).subset (Text.dropReturn_subset l))

theorem not_mem_mapOutside {c : Char} (hf : ∀ l, f l ⊆ l) (h : ∀ l ∈ ls, c ∉ l) (inCode : Bool) :
    ∀ l ∈ mapOutside f inCode ls, c ∉ l := by
  induction ls generalizing inCode with
  | nil => exact fun _ hl => absurd hl List.not_mem_nil
  | cons l ls ih =>
    obtain ⟨hl, hls⟩ := List.forall_mem_cons.1 h
    rw [mapOutside]
    split
    · exact List.forall_mem_cons.2 ⟨hl, ih hls _⟩
    · refine List.forall_mem_cons.2 ⟨?_, ih hls _⟩
      split
      · exact hl
      · exact fun hc => hl (hf l hc)

theorem not_mem_tidyLines {c : Char} (h : ∀ l ∈ ls, c ∉ l) (inCode : Bool) :
    ∀ l ∈ tidyLines inCode ls, c ∉ l :=
  not_mem_mapOutside (fun l => (dropWrappers_sublist l).subset)
    (Text.not_mem_map prepared_subset h) inCode

theorem mapOutside_ne_nil (h : ls ≠ []) (inCode : Bool) : mapOutside f inCode ls ≠ [] := by
  obtain ⟨l, ls, rfl⟩ := List.exists_cons_of_ne_nil h
  rw [mapOutside]
  split <;> exact List.cons_ne_nil _ _

/-- An empty line at the end stays as it is. -/
theorem mapOutside_concat_nil (hf : f [] = []) (inCode : Bool) (ls : List (List Char)) :
    mapOutside f inCode (ls ++ [[]]) = mapOutside f inCode ls ++ [[]] := by
  induction ls generalizing inCode with
  | nil =>
    show [if inCode then [] else f []] = [[]]
    rw [hf, ite_self]
  | cons l ls ih =>
    rw [List.cons_append, mapOutside, mapOutside]
    split
    · rw [ih, List.cons_append]
    · rw [ih, List.cons_append]

/-- The lines of a text are taken one by one, whether the last of them is closed or not. -/
theorem mapOutsideFences_unlines (hf : f [] = []) (hls : ∀ l ∈ ls, '\n' ∉ l) (hlast : '\n' ∉ l) :
    mapOutsideFences f (Text.unlines (ls ++ [l])) =
      Text.unlines (mapOutside f false (ls.map Text.dropReturn ++ [l])) := by
  rw [mapOutsideFences, Text.lineChars_unlines hls hlast, rejoin]
  by_cases hl : l = []
  · subst hl
    rw [if_pos rfl, List.append_nil, mapOutside_concat_nil hf]
    by_cases hne : ls = []
    · rw [hne]
      rfl
    · have hlines : ls.map Text.dropReturn ≠ [] := by simpa using hne
      have hout : mapOutside f false (ls.map Text.dropReturn) ≠ [] :=
        mapOutside_ne_nil hlines false
      have hends : endsLine (Text.unlines (ls ++ [[]])) = true := by
        rw [Text.unlines_closed hne, endsLine, List.getLast?_concat]
        rfl
      rw [hends, if_pos rfl, Text.unlines_closed hout]
  · have hends : endsLine (Text.unlines (ls ++ [l])) = false := by
      rw [endsLine, Text.getLast?_unlines_concat ls hl, beq_eq_false_iff_ne]
      exact fun h => hlast (List.mem_of_getLast? h)
    rw [if_neg hl, hends, if_neg Bool.false_ne_true, List.append_nil]

/-- The passes that work on lines take the lines of a text one by one. -/
theorem linePasses_unlines (hls : ∀ l ∈ ls, '\n' ∉ l) (hlast : '\n' ∉ l) :
    mapOutsideFences dropWrappers (plainLanguages
        (Text.replaceAll ['\r', '\n'] ['\n'] (Text.unlines (ls ++ [l])))) =
      Text.unlines (mapOutside dropWrappers false (ls.map prepared ++ [plainLanguage l])) := by
  have hreturns := Text.not_mem_map Text.dropReturn_subset hls
  have hplain := Text.not_mem_map (fun l => (plainLanguage_sublist l).subset) hreturns
  have hlines : ((ls.map Text.dropReturn).map plainLanguage).map Text.dropReturn =
      ls.map prepared := by
    rw [List.map_map, List.map_map]
    rfl
  rw [Text.replaceAll_return_unlines hls hlast, plainLanguages,
    Text.splitOn_unlines hreturns hlast, List.map_append,
    List.map_singleton, mapOutsideFences_unlines rfl hplain
      fun h => hlast ((plainLanguage_sublist l).subset h), hlines]

/-- What is shown of a text of closed lines that starts with something shown. -/
theorem shownLines_tidy (hls : ∀ l ∈ ls, '\n' ∉ l)
    (hstart : ∀ c ∈ (Text.unlines ((tidyLines false ls).map
      (Text.dropEndWhile Text.isBlank))).head?, Text.isBlank c = false) :
    Text.shownLines (tidy none (Text.unlines (ls ++ [[]]))) = Text.shown (tidyLines false ls) := by
  have hfree := not_mem_tidyLines hls false
  have hpasses : mapOutsideFences dropWrappers (plainLanguages
      (Text.replaceAll ['\r', '\n'] ['\n'] (Text.unlines (ls ++ [[]])))) =
      Text.unlines (tidyLines false ls ++ [[]]) :=
    (linePasses_unlines hls List.not_mem_nil).trans
      (congrArg Text.unlines (mapOutside_concat_nil rfl false _))
  have htrimmed : trimLineEnds (Text.unlines (tidyLines false ls ++ [[]])) =
      Text.unlines ((tidyLines false ls).map (Text.dropEndWhile Text.isBlank)) := by
    rw [trimLineEnds, Text.lineChars_unlines hfree List.not_mem_nil, if_pos rfl, List.append_nil,
      List.map_map]
    exact congrArg _ (List.map_congr_left fun l _ => Text.dropEndWhile_dropReturn l)
  have hcollapse := shownLines_collapseFeeds (n := 0) (a := [])
    (s := trimLineEnds (Text.unlines (tidyLines false ls ++ [[]]))) (.inl rfl)
  rw [tidy, absoluteLinks, hpasses]
  rw [shownLines_closed (by rwa [head?_collapseFeeds, htrimmed])]
  refine hcollapse.trans ?_
  rw [List.nil_append, shownLines_trimLineEnds, Text.shownLines, Text.splitOn_unlines hfree
    List.not_mem_nil, Text.shown_append, Text.shown_nil_cons, Text.shown_nil, List.append_nil]

end ContextCompiler.Markdown
