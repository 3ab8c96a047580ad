import ContextCompiler.Proofs.Storage.Directory
import ContextCompiler.Proofs.Text.Trim
import ContextCompiler.Text.Lines

/-!
What the lines of a text show.

What a line shows is what it has before blanks at its end. Carriage returns at ends of lines, blank
lines and blanks around the text do not show, so a text shows the same without them.
-/

namespace ContextCompiler.Text

variable {c : Char} {l s a b last : List Char} {ls : List (List Char)}

/-! ## Ends of lines -/

/-- A line without one carriage return at its end. -/
def dropReturn (line : List Char) : List Char := (dropSuffix? ['\r'] line).getD line

theorem dropSuffix?_singleton_append (c : Char) (l : List Char) :
    dropSuffix? [c] (l ++ [c]) = some l := by
  rw [dropSuffix?, Option.map_eq_some_iff]
  exact ⟨l.reverse, dropPrefix?_eq_some_iff.2 (by simp), List.reverse_reverse l⟩

theorem dropSuffix?_singleton_eq_some (h : dropSuffix? [c] l = some s) : l = s ++ [c] := by
  rw [dropSuffix?, Option.map_eq_some_iff] at h
  obtain ⟨r, hr, rfl⟩ := h
  rw [dropPrefix?_eq_some_iff] at hr
  rw [← List.reverse_reverse l, hr]
  simp

theorem dropReturn_append_return (l : List Char) : dropReturn (l ++ ['\r']) = l := by
  rw [dropReturn, dropSuffix?_singleton_append]
  rfl

theorem dropReturn_of_getLast?_ne (h : l.getLast? ≠ some '\r') : dropReturn l = l := by
  cases hl : dropSuffix? ['\r'] l with
  | none => rw [dropReturn, hl, Option.getD_none]
  | some s => exact absurd (by rw [dropSuffix?_singleton_eq_some hl, List.getLast?_concat]) h

/-- A line is as it was, or there was one more carriage return. -/
theorem eq_dropReturn_or (l : List Char) : l = dropReturn l ∨ l = dropReturn l ++ ['\r'] := by
  by_cases h : l.getLast? = some '\r'
  · obtain ⟨s, rfl⟩ := List.getLast?_eq_some_iff.1 h
    exact .inr (by rw [dropReturn_append_return])
  · exact .inl (dropReturn_of_getLast?_ne h).symm

theorem dropReturn_subset (l : List Char) : dropReturn l ⊆ l := by
  rcases eq_dropReturn_or l with h | h
  · rw [← h]
    exact List.Subset.refl l
  · conv_rhs => rw [h]
    exact List.subset_append_left _ _

theorem dropReturn_cons (h : c :: l ≠ ['\r']) : dropReturn (c :: l) = c :: dropReturn l := by
  by_cases hlast : l.getLast? = some '\r'
  · obtain ⟨s, rfl⟩ := List.getLast?_eq_some_iff.1 hlast
    rw [← List.cons_append, dropReturn_append_return, dropReturn_append_return]
  · rw [dropReturn_of_getLast?_ne hlast, dropReturn_of_getLast?_ne]
    cases l with
    | nil => simpa using h
    | cons d l => rwa [List.getLast?_cons_cons]

/-- Lines that are only made shorter hold no more characters. -/
theorem not_mem_map {f : List Char → List Char} (hf : ∀ l, f l ⊆ l) (h : ∀ l ∈ ls, c ∉ l) :
    ∀ l ∈ ls.map f, c ∉ l := by
  intro l hl
  obtain ⟨m, hm, rfl⟩ := List.mem_map.1 hl
  exact fun hc => h m hm (hf m hc)

/-! ## Texts of lines -/

theorem unlines_cons (h : ls ≠ []) : unlines (l :: ls) = l ++ '\n' :: unlines ls := by
  obtain ⟨m, ms, rfl⟩ := List.exists_cons_of_ne_nil h
  rw [unlines, joinWith, unlines, List.append_assoc, List.singleton_append]

theorem unlines_cons_concat (l : List Char) (ls : List (List Char)) (last : List Char) :
    unlines (l :: ls ++ [last]) = l ++ '\n' :: unlines (ls ++ [last]) :=
  unlines_cons (by simp)

theorem head?_unlines (c : Char) (l : List Char) (ls : List (List Char)) :
    (unlines ((c :: l) :: ls)).head? = some c := by
  cases ls <;> rfl

theorem unlines_closed (h : ls ≠ []) : unlines (ls ++ [[]]) = unlines ls ++ ['\n'] := by
  rw [unlines, joinWith_concat h, List.append_nil, unlines]

theorem getLast?_unlines_concat (ls : List (List Char)) (h : last ≠ []) :
    (unlines (ls ++ [last])).getLast? = last.getLast? := by
  by_cases hne : ls = []
  · rw [hne]
    rfl
  · rw [unlines, joinWith_concat hne, List.getLast?_append_of_ne_nil _ h]

theorem splitOn_unlines (h : ∀ l ∈ ls, '\n' ∉ l) (hlast : '\n' ∉ last) :
    splitOn '\n' (unlines (ls ++ [last])) = ls ++ [last] :=
  splitOn_joinWith (by simp) (List.forall_mem_append.2 ⟨h, List.forall_mem_singleton.2 hlast⟩)

/-- Every text is one of lines, the last of which is not closed. -/
theorem exists_unlines (s : List Char) : ∃ ls last, splitOn '\n' s = ls ++ [last] ∧
    s = unlines (ls ++ [last]) ∧ (∀ l ∈ ls, '\n' ∉ l) ∧ '\n' ∉ last := by
  rcases List.eq_nil_or_concat (splitOn '\n' s) with hnil | ⟨ls, last, hsplit⟩
  · exact absurd hnil (splitOn_ne_nil _ s)
  · have hfree : ∀ l ∈ ls ++ [last], '\n' ∉ l := fun l hl =>
      not_mem_of_mem_splitOn (s := s) (by rwa [hsplit, List.concat_eq_append])
    rw [List.concat_eq_append] at hsplit
    refine ⟨ls, last, hsplit, ?_, fun l hl => hfree l (List.mem_append_left _ hl),
      hfree last (by simp)⟩
    rw [← hsplit, unlines, joinWith_splitOn]

theorem chunks_append_feed (h : '\n' ∉ l) (s : List Char) :
    chunks (l ++ '\n' :: s) = (l ++ ['\n']) :: chunks s := by
  induction l with
  | nil => rfl
  | cons c l ih =>
    rw [List.mem_cons, not_or] at h
    have hc : (c == '\n') = false := beq_eq_false_iff_ne.2 (Ne.symm h.1)
    rw [List.cons_append, chunks, hc, ih h.2]
    rfl

theorem chunks_of_not_mem (h : '\n' ∉ l) : chunks l = if l = [] then [] else [l] := by
  induction l with
  | nil => rfl
  | cons c l ih =>
    rw [List.mem_cons, not_or] at h
    have hc : (c == '\n') = false := beq_eq_false_iff_ne.2 (Ne.symm h.1)
    rw [chunks, hc, ih h.2, if_neg (List.cons_ne_nil c l)]
    by_cases hl : l = []
    · rw [hl]
      rfl
    · rw [if_neg hl]
      rfl

/-- The lines of a text are its closed lines without their carriage returns, and the last line
unless it is empty. -/
theorem lineChars_unlines (h : ∀ l ∈ ls, '\n' ∉ l) (hlast : '\n' ∉ last) :
    lineChars (unlines (ls ++ [last])) =
      ls.map dropReturn ++ if last = [] then [] else [last] := by
  induction ls with
  | nil =>
    show (chunks last).map dropLineEnd = if last = [] then [] else [last]
    have hopen : dropSuffix? ['\n'] last = none := by
      rw [Option.eq_none_iff_forall_ne_some]
      intro r hr
      exact hlast (by rw [dropSuffix?_singleton_eq_some hr]; simp)
    rw [chunks_of_not_mem hlast]
    split
    · rfl
    · rw [List.map_singleton, dropLineEnd, hopen]
  | cons l ls ih =>
    have hl := h l List.mem_cons_self
    rw [unlines_cons_concat, lineChars, chunks_append_feed hl, List.map_cons, List.map_cons,
      dropLineEnd, dropSuffix?_singleton_append]
    exact congrArg _ (ih fun m hm => h m (List.mem_cons_of_mem _ hm))

/-- A text without line feeds has no line ends to be exchanged. -/
theorem replaceAllAux_of_not_mem (hl : '\n' ∉ l) (n : Nat) :
    replaceAllAux ['\r', '\n'] ['\n'] n l = l := by
  induction l generalizing n with
  | nil => cases n <;> rfl
  | cons c l ih =>
    cases n with
    | zero => rfl
    | succ n =>
      have hnone : dropPrefix? ['\r', '\n'] (c :: l) = none := by
        rw [Option.eq_none_iff_forall_ne_some]
        intro r hr
        rw [dropPrefix?_eq_some_iff] at hr
        exact hl (by rw [hr]; simp)
      rw [replaceAllAux, hnone]
      exact congrArg _ (ih (List.not_mem_of_not_mem_cons hl) n)

/-- One line with its end is gone through, and a carriage return is left out. How much fuel is left
does not count, as long as it is enough. -/
theorem replaceAllAux_line (hl : '\n' ∉ l) {n : Nat} (hn : (l ++ '\n' :: s).length < n) :
    ∃ m, s.length < m ∧ replaceAllAux ['\r', '\n'] ['\n'] n (l ++ '\n' :: s) =
      dropReturn l ++ '\n' :: replaceAllAux ['\r', '\n'] ['\n'] m s := by
  induction l generalizing n with
  | nil =>
    obtain ⟨m, rfl⟩ := Nat.exists_eq_succ_of_ne_zero (Nat.ne_zero_of_lt hn)
    exact ⟨m, Nat.lt_of_succ_lt_succ hn, rfl⟩
  | cons c l ih =>
    obtain ⟨m, rfl⟩ := Nat.exists_eq_succ_of_ne_zero (Nat.ne_zero_of_lt hn)
    by_cases hend : c :: l = ['\r']
    · cases hend
      exact ⟨m, Nat.lt_of_succ_lt (Nat.lt_of_succ_lt_succ hn), rfl⟩
    · have hnone : dropPrefix? ['\r', '\n'] (c :: (l ++ '\n' :: s)) = none := by
        rw [Option.eq_none_iff_forall_ne_some]
        intro r hr
        rw [dropPrefix?_eq_some_iff] at hr
        cases l with
        | nil => exact hend (by rw [(List.cons.inj hr).1])
        | cons d l =>
          have hd := (List.cons.inj (List.cons.inj hr).2).1
          exact hl (hd ▸ List.mem_cons_of_mem _ List.mem_cons_self)
      obtain ⟨k, hk, heq⟩ := ih (List.not_mem_of_not_mem_cons hl) (Nat.lt_of_succ_lt_succ hn)
      refine ⟨k, hk, ?_⟩
      rw [List.cons_append, replaceAllAux, hnone, dropReturn_cons hend]
      exact congrArg _ heq

/-- Each closed line of a text loses a carriage return at its end. -/
theorem replaceAll_return_unlines (h : ∀ l ∈ ls, '\n' ∉ l) (hlast : '\n' ∉ last) :
    replaceAll ['\r', '\n'] ['\n'] (unlines (ls ++ [last])) =
      unlines (ls.map dropReturn ++ [last]) := by
  suffices ∀ n, (unlines (ls ++ [last])).length < n →
      replaceAllAux ['\r', '\n'] ['\n'] n (unlines (ls ++ [last])) =
        unlines (ls.map dropReturn ++ [last]) from this _ (Nat.lt_succ_self _)
  induction ls with
  | nil => exact fun n _ => replaceAllAux_of_not_mem hlast n
  | cons l ls ih =>
    intro n hn
    rw [unlines_cons_concat] at hn ⊢
    obtain ⟨m, hm, heq⟩ := replaceAllAux_line (h l List.mem_cons_self) hn
    rw [heq, ih (fun k hk => h k (List.mem_cons_of_mem _ hk)) m hm, List.map_cons,
      unlines_cons_concat]

/-! ## What is shown -/

/-- What lines show: those that are not blank, without blanks at their ends. -/
def shown (ls : List (List Char)) : List (List Char) :=
  (ls.map (dropEndWhile isBlank)).filter (· ≠ [])

/-- What the lines of a text show. -/
def shownLines (s : List Char) : List (List Char) := shown (splitOn '\n' s)

@[simp] theorem shown_nil : shown [] = [] := rfl

@[simp] theorem shown_nil_cons (ls : List (List Char)) : shown ([] :: ls) = shown ls := rfl

theorem shown_append (ls ms : List (List Char)) : shown (ls ++ ms) = shown ls ++ shown ms := by
  rw [shown, List.map_append, List.filter_append, shown, shown]

theorem shown_cons (l : List Char) (ls : List (List Char)) :
    shown (l :: ls) = if dropEndWhile isBlank l = [] then shown ls
      else dropEndWhile isBlank l :: shown ls := by
  rw [shown, List.map_cons, List.filter_cons]
  by_cases h : dropEndWhile isBlank l = [] <;> simp [h, shown]

theorem shownLines_append_feed (a b : List Char) :
    shownLines (a ++ '\n' :: b) = shownLines a ++ shownLines b := by
  rw [shownLines, splitOn_append_cons, shown_append, shownLines, shownLines]

theorem infix_joinWith (sep : List Char) (h : l ∈ ls) : l <:+: joinWith sep ls := by
  induction ls with
  | nil => cases h
  | cons m ls ih =>
    cases ls with
    | nil => rw [List.mem_singleton.1 h, joinWith]
    | cons k ls =>
      rw [joinWith]
      rcases List.mem_cons.1 h with rfl | h
      · exact ⟨[], sep ++ joinWith sep (k :: ls), by simp⟩
      · exact (ih h).trans (List.suffix_append _ _).isInfix

/-- What is shown of a text stands in it. -/
theorem infix_of_mem_shownLines (h : l ∈ shownLines s) : l <:+: s := by
  obtain ⟨line, hline, rfl⟩ := List.mem_map.1 (List.mem_of_mem_filter h)
  obtain ⟨back, heq, -⟩ := exists_append_dropEndWhile isBlank line
  have hin := infix_joinWith ['\n'] hline
  rw [joinWith_splitOn] at hin
  refine List.IsInfix.trans ?_ hin
  conv_rhs => rw [heq]
  exact (List.prefix_append _ back).isInfix

theorem shownLines_unlines (h : ∀ l ∈ ls, '\n' ∉ l) : shownLines (unlines ls) = shown ls := by
  by_cases hne : ls = []
  · rw [hne]
    rfl
  · rw [shownLines, unlines, splitOn_joinWith hne h]

theorem shown_map_dropEndWhile (ls : List (List Char)) :
    shown (ls.map (dropEndWhile isBlank)) = shown ls := by
  rw [shown, List.map_map]
  exact congrArg (List.filter _) (List.map_congr_left fun l _ =>
    dropEndWhile_eq_self fun c hc => getLast?_dropEndWhile hc)

theorem dropEndWhile_dropReturn (l : List Char) :
    dropEndWhile isBlank (dropReturn l) = dropEndWhile isBlank l := by
  rcases eq_dropReturn_or l with h | h
  · rw [← h]
  · conv_rhs => rw [h]
    rw [dropEndWhile_append_of_pos (by decide)]

theorem shown_map_dropReturn (ls : List (List Char)) : shown (ls.map dropReturn) = shown ls := by
  rw [shown, List.map_map]
  exact congrArg (List.filter _) (List.map_congr_left fun l _ => dropEndWhile_dropReturn l)

/-- A text shows what its lines show. -/
theorem shown_lineChars (s : List Char) : shown (lineChars s) = shownLines s := by
  obtain ⟨ls, last, hsplit, hs, hls, hlast⟩ := exists_unlines s
  have hopen : shown (if last = [] then [] else [last]) = shown [last] := by
    split
    · next hnil => rw [hnil, shown_nil_cons]
    · rfl
  rw [shownLines, hsplit, hs, lineChars_unlines hls hlast, shown_append, shown_append,
    shown_map_dropReturn, hopen]

theorem not_mem_of_mem_lineChars (h : l ∈ lineChars s) : '\n' ∉ l := by
  obtain ⟨ls, last, -, rfl, hls, hlast⟩ := exists_unlines s
  rw [lineChars_unlines hls hlast] at h
  rcases List.mem_append.1 h with h | h
  · exact not_mem_map dropReturn_subset hls l h
  · split at h
    · cases h
    · rwa [List.mem_singleton.1 h]

theorem exists_last_line (s : List Char) :
    '\n' ∉ s ∨ ∃ a l, s = a ++ '\n' :: l ∧ '\n' ∉ l := by
  by_cases h : '\n' ∈ s
  · obtain ⟨l, a, hs, hl⟩ := List.eq_append_cons_of_mem (List.mem_reverse.2 h)
    refine .inr ⟨a.reverse, l.reverse, ?_, fun hmem => hl (List.mem_reverse.1 hmem)⟩
    rw [← List.reverse_reverse s, hs]
    simp
  · exact .inl h

/-- A blank at the end of a text does not show. -/
theorem shownLines_append_blank (h : isBlank c = true) :
    shownLines (s ++ [c]) = shownLines s := by
  have hlast : c ≠ '\n' → ∀ l, '\n' ∉ l → shownLines (l ++ [c]) = shownLines l := by
    intro hc l hl
    have hline : '\n' ∉ l ++ [c] := by simpa [hl] using Ne.symm hc
    rw [shownLines, shownLines, splitOn_of_not_mem hl, splitOn_of_not_mem hline, shown, shown,
      List.map_singleton, List.map_singleton, dropEndWhile_append_of_pos h]
  by_cases hc : c = '\n'
  · rw [hc, shownLines_append_feed]
    exact List.append_nil _
  · rcases exists_last_line s with hs | ⟨a, l, rfl, hl⟩
    · exact hlast hc s hs
    · rw [List.append_assoc, List.cons_append, shownLines_append_feed, shownLines_append_feed,
        hlast hc l hl]

theorem shownLines_append_blanks (h : ∀ c ∈ b, isBlank c = true) :
    shownLines (s ++ b) = shownLines s := by
  induction b using List.reverseRecOn with
  | nil => rw [List.append_nil]
  | append_singleton b c ih =>
    rw [← List.append_assoc, shownLines_append_blank (h c (by simp))]
    exact ih fun d hd => h d (List.mem_append_left _ hd)

end ContextCompiler.Text
