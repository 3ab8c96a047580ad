import ContextCompiler.Proofs.Render.Block

/-!
Telling blocks apart.

The path ends its line, and with the path the language is known, so the fence is what is left of
the line that opens the code. The content has no fence in it, so the next one closes the code. A
block can thus be cut off a longer text in one way only, and a text of blocks gives back its files,
but for the line feeds at the ends of their contents.
-/

namespace ContextCompiler.Render

variable {fence body body' rest rest' l l' : List Char} {path path' content content' : String}
  {files files' : List (String × String)}

/-! ## Fences -/

theorem not_mem_fenceFor (content : String) : '\n' ∉ (fenceFor content).toList := by
  intro hfeed
  rw [fenceFor, String.toList_ofList] at hfeed
  cases List.eq_of_mem_replicate hfeed

theorem not_mem_languageOf (path : String) : '\n' ∉ (languageOf path).toList := by
  have hlanguages : ∀ lang ∈ "" :: languages.map Prod.snd, '\n' ∉ lang.toList := by decide
  exact hlanguages _ (mem_languageOf path)

/-- A line ends where the first line feed stands. -/
theorem append_feed_inj (h : '\n' ∉ l) (h' : '\n' ∉ l') (heq : l ++ '\n' :: rest = l' ++ '\n' :: rest') :
    l = l' ∧ rest = rest' := by
  have hcut := congrArg (Text.splitFirst ['\n']) heq
  rw [Text.splitFirst_append h, Text.splitFirst_append h'] at hcut
  exact Prod.mk.inj (Option.some.inj hcut)

/-- Where a fence that a text does not have in it follows on a line of its own, the text ends at the
first such line. -/
theorem prefix_of_append_fence (hfeed : '\n' ∉ fence) (h : ¬ fence <:+: body')
    (heq : body ++ '\n' :: (fence ++ rest) = body' ++ '\n' :: (fence ++ rest')) :
    body' <+: body := by
  rcases List.append_eq_append_iff.1 heq with ⟨more, rfl, hmore⟩ | ⟨more, hmore, -⟩
  · cases more with
    | nil =>
      rw [List.append_nil]
    | cons c more =>
      -- the rest of `body'` starts with a line feed, and then the fence would stand in it
      have hfence : fence ++ rest = more ++ '\n' :: (fence ++ rest') := (List.cons.inj hmore).2
      rcases List.append_eq_append_iff.1 hfence with ⟨back, hback, -⟩ | ⟨back, hback, hrest⟩
      · refine absurd ?_ h
        rw [hback]
        exact ⟨body ++ [c], back, by simp⟩
      · cases back with
        | nil =>
          refine absurd ?_ h
          rw [hback, List.append_nil]
          exact ⟨body ++ [c], [], by simp⟩
        | cons d back =>
          have hd : '\n' = d := (List.cons.inj hrest).1
          refine absurd ?_ hfeed
          rw [hback, hd]
          simp
  · exact hmore ▸ List.prefix_append body' more

/-- A body that does not have its fence in it ends in one place only. -/
theorem append_fence_inj (hfeed : '\n' ∉ fence) (h : ¬ fence <:+: body) (h' : ¬ fence <:+: body')
    (heq : body ++ '\n' :: (fence ++ rest) = body' ++ '\n' :: (fence ++ rest')) :
    body = body' ∧ rest = rest' := by
  have hbody : body = body' :=
    (prefix_of_append_fence hfeed h heq.symm).eq_of_length_le
      (prefix_of_append_fence hfeed h' heq).length_le
  subst hbody
  have hrest := (List.cons.inj (List.append_cancel_left heq)).2
  exact ⟨rfl, List.append_cancel_left hrest⟩

/-! ## One block -/

/-- The content of a file as its block has it: without the line feeds at its end. -/
def bodyChars (content : String) : List Char :=
  Text.dropEndWhile (· == '\n') content.toList

theorem toList_fileBlock_append (path content : String) (s : List Char) :
    (fileBlock path content).toList ++ s =
      "### ".toList ++ (path.toList ++ '\n' :: '\n' ::
        ((fenceFor content).toList ++ (languageOf path).toList ++ '\n' ::
          (bodyChars content ++ '\n' :: ((fenceFor content).toList ++ '\n' :: s)))) := by
  simp [fileBlock, bodyChars, String.toList_append]

theorem not_fenceFor_infix_body (content : String) :
    ¬ (fenceFor content).toList <:+: bodyChars content := by
  intro h
  obtain ⟨back, heq, -⟩ := Text.exists_append_dropEndWhile (· == '\n') content.toList
  have hbody : bodyChars content <:+: content.toList := by
    conv_rhs => rw [heq]
    exact (List.prefix_append _ back).isInfix
  exact not_fenceFor_infix content (h.trans hbody)

/-- A block that starts a text tells its path and its content, and where it ends. -/
theorem fileBlock_append_inj (hpath : '\n' ∉ path.toList) (hpath' : '\n' ∉ path'.toList)
    {s s' : List Char}
    (heq : (fileBlock path content).toList ++ s = (fileBlock path' content').toList ++ s') :
    path = path' ∧ bodyChars content = bodyChars content' ∧ s = s' := by
  rw [toList_fileBlock_append, toList_fileBlock_append] at heq
  obtain ⟨hpaths, heq⟩ := append_feed_inj hpath hpath' (List.append_cancel_left heq)
  obtain rfl : path = path' := String.toList_injective hpaths
  -- the line that opens the code is the fence with the language of the path
  have hopening : ∀ content : String,
      '\n' ∉ (fenceFor content).toList ++ (languageOf path).toList := by
    intro content hfeed
    rcases List.mem_append.1 hfeed with hfeed | hfeed
    · exact not_mem_fenceFor content hfeed
    · exact not_mem_languageOf path hfeed
  obtain ⟨hfences, heq⟩ :=
    append_feed_inj (hopening content) (hopening content') (List.cons.inj heq).2
  have hfence := List.append_cancel_right hfences
  have hbody' : ¬ (fenceFor content).toList <:+: bodyChars content' := by
    rw [hfence]
    exact not_fenceFor_infix_body content'
  rw [← hfence] at heq
  obtain ⟨hbody, hrest⟩ := append_fence_inj (not_mem_fenceFor content)
    (not_fenceFor_infix_body content) hbody' heq
  exact ⟨rfl, hbody, (List.cons.inj hrest).2⟩

/-- Line feeds at the end of a content play no part for its fence. -/
theorem longestTicks_bodyChars (content : String) :
    longestTicks (bodyChars content) = longestTicks content.toList := by
  obtain ⟨back, heq, hback⟩ := Text.exists_append_dropEndWhile (· == '\n') content.toList
  have hfeeds : ∀ runs : Nat × Nat, (back.foldl tickStep runs).2 = runs.2 := by
    clear heq
    intro runs
    induction back generalizing runs with
    | nil => rfl
    | cons c back ih =>
      have hc : c = '\n' := beq_iff_eq.1 (hback c List.mem_cons_self)
      rw [List.foldl_cons, ih fun d hd => hback d (List.mem_cons_of_mem _ hd), hc]
      rfl
  conv_rhs => rw [heq, longestTicks, List.foldl_append, hfeeds]
  rfl

theorem fileBlock_congr (path : String) (h : bodyChars content = bodyChars content') :
    fileBlock path content = fileBlock path content' := by
  have hfence : fenceFor content = fenceFor content' := by
    unfold fenceFor
    rw [← longestTicks_bodyChars, h, longestTicks_bodyChars]
  unfold bodyChars at h
  unfold fileBlock
  rw [hfence, h]

/-! ## Texts of blocks -/

/-- The blocks of files one after the other, with a blank line between two. -/
def fileBlocks (files : List (String × String)) : String :=
  Text.join "\n" (files.map fun f => fileBlock f.1 f.2)

/-- Two files of one path whose contents differ in line feeds at their ends only. -/
def IsSameFile (f g : String × String) : Prop := f.1 = g.1 ∧ bodyChars f.2 = bodyChars g.2

theorem toList_fileBlocks_cons (f : String × String) (files : List (String × String)) :
    (fileBlocks (f :: files)).toList = (fileBlock f.1 f.2).toList ++
      if files = [] then [] else '\n' :: (fileBlocks files).toList := by
  cases files with
  | nil => simp [fileBlocks, Text.join, Text.joinWith]
  | cons g files => simp [fileBlocks, Text.join, Text.joinWith]

theorem fileBlocks_cons_ne_empty (f : String × String) (files : List (String × String)) :
    fileBlocks (f :: files) ≠ "" := by
  intro h
  have hchars := congrArg String.toList h
  rw [toList_fileBlocks_cons, toList_fileBlock_append] at hchars
  cases hchars

/-- Two lists of files whose paths are single lines have the same text exactly when they are as long
as each other and their files are the same one by one. -/
theorem fileBlocks_eq_iff (h : ∀ f ∈ files, '\n' ∉ f.1.toList)
    (h' : ∀ f ∈ files', '\n' ∉ f.1.toList) :
    fileBlocks files = fileBlocks files' ↔ List.Forall₂ IsSameFile files files' := by
  constructor
  · intro heq
    induction files generalizing files' with
    | nil =>
      cases files' with
      | nil => exact .nil
      | cons g files' => exact absurd heq.symm (fileBlocks_cons_ne_empty g files')
    | cons f files ih =>
      cases files' with
      | nil => exact absurd heq (fileBlocks_cons_ne_empty f files)
      | cons g files' =>
        obtain ⟨hf, hfiles⟩ := List.forall_mem_cons.1 h
        obtain ⟨hg, hfiles'⟩ := List.forall_mem_cons.1 h'
        have hchars := congrArg String.toList heq
        rw [toList_fileBlocks_cons, toList_fileBlocks_cons] at hchars
        obtain ⟨hpath, hbody, hrest⟩ := fileBlock_append_inj hf hg hchars
        refine .cons ⟨hpath, hbody⟩ ?_
        by_cases hnil : files = []
        · by_cases hnil' : files' = []
          · rw [hnil, hnil']
            exact .nil
          · rw [if_pos hnil, if_neg hnil'] at hrest
            cases hrest
        · by_cases hnil' : files' = []
          · rw [if_neg hnil, if_pos hnil'] at hrest
            cases hrest
          · rw [if_neg hnil, if_neg hnil'] at hrest
            exact ih hfiles hfiles' (String.toList_injective (List.cons.inj hrest).2)
  · intro hsame
    unfold fileBlocks
    congr 1
    induction hsame with
    | nil => rfl
    | @cons f g files files' hfile _ ih =>
      obtain ⟨hpath, hbody⟩ := hfile
      rw [List.map_cons, List.map_cons, hpath, fileBlock_congr g.1 hbody,
        ih (List.forall_mem_cons.1 h).2 (List.forall_mem_cons.1 h').2]

theorem not_fenceFor_infix_line {line : List Char}
    (h : line ∈ Text.splitOn '\n' content.toList) : ¬ (fenceFor content).toList <:+: line := by
  intro hfence
  have hline := Text.infix_joinWith ['\n'] h
  rw [Text.joinWith_splitOn] at hline
  exact not_fenceFor_infix content (hfence.trans hline)

/-- A text of blocks gives back its files, but for line feeds at the ends of contents, and no line of
a content has the fence in it that would close the code. -/
theorem fileBlocks_decodable (h : ∀ f ∈ files, '\n' ∉ f.1.toList)
    (h' : ∀ f ∈ files', '\n' ∉ f.1.toList) :
    (fileBlocks files = fileBlocks files' ↔ List.Forall₂ IsSameFile files files') ∧
      ∀ f ∈ files, ∀ line ∈ Text.splitOn '\n' f.2.toList, ¬ (fenceFor f.2).toList <:+: line :=
  ⟨fileBlocks_eq_iff h h', fun _ _ _ => not_fenceFor_infix_line⟩

/-- A content that ends like a block, with the heading of another file behind it. -/
def forged : String := "x\n\x60\x60\x60\n\n### b.md\n\n\x60\x60\x60markdown\ny"

theorem forged_decodable :
    fileBlocks [("a.md", forged)] ≠ fileBlocks [("a.md", "x"), ("b.md", "y")] ∧
      fileBlocks [("a.md", forged), ("b.md", "y\n\n")] =
        fileBlocks [("a.md", forged), ("b.md", "y")] := by
  constructor
  · intro heq
    have hsame := (fileBlocks_decodable (by decide) (by decide)).1.1 heq
    cases hsame with
    | cons _ hrest => cases hrest
  · refine (fileBlocks_decodable (by decide) (by decide)).1.2 ?_
    exact .cons ⟨rfl, rfl⟩ (.cons ⟨rfl, by decide⟩ .nil)

end ContextCompiler.Render
