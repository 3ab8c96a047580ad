import ContextCompiler.Proofs.Markdown.Links
import ContextCompiler.Proofs.Markdown.Spared
import ContextCompiler.Proofs.Url.OneLine

/-!
Code that tidying keeps.

The passes that work on lines leave code as it is. Links are resolved in the whole text, code
included, and a bracket that is open before a line may make a link of it. So a line of code is safe
just if resolving links leaves it as it is, whatever is open before it.
-/

namespace ContextCompiler

/-! ## What is shown of a text -/

namespace Text

variable {c : Char} {l s : List Char} {ls : List (List Char)}

theorem shownLines_unlines_flatMap (h : ls ≠ []) :
    shownLines (unlines ls) = ls.flatMap shownLines := by
  induction ls with
  | nil => exact absurd rfl h
  | cons l ls ih =>
    by_cases hls : ls = []
    · rw [hls, List.flatMap_singleton]
      rfl
    · rw [unlines_cons hls, shownLines_append_feed, ih hls, List.flatMap_cons]

theorem shownLines_of_not_mem (h : '\n' ∉ l) : shownLines l = shown [l] := by
  rw [shownLines, splitOn_of_not_mem h]

/-- A text with a character that is not blank shows something. -/
theorem shownLines_ne_nil (hc : c ∈ s) (hblank : isBlank c = false) : shownLines s ≠ [] := by
  have hfeed : c ≠ '\n' := by
    rintro rfl
    cases hblank
  rw [← joinWith_splitOn '\n' s] at hc
  obtain ⟨l, hl, hc⟩ := (mem_joinWith hc).resolve_left (by simpa using hfeed)
  have hshown : dropEndWhile isBlank l ≠ [] := fun hnil => by
    obtain ⟨back, hback, hall⟩ := exists_append_dropEndWhile isBlank l
    rw [hnil, List.nil_append] at hback
    rw [hall c (hback ▸ hc)] at hblank
    cases hblank
  refine List.ne_nil_of_mem (a := dropEndWhile isBlank l) ?_
  exact List.mem_filter.2 ⟨List.mem_map_of_mem hl, decide_eq_true hshown⟩

theorem dropEndWhile_cons (p : Char → Bool) (c : Char) (l : List Char) :
    dropEndWhile p (c :: l) = if dropEndWhile p l = [] then (if p c then [] else [c])
      else c :: dropEndWhile p l := by
  unfold dropEndWhile
  rw [List.reverse_cons, List.dropWhile_append]
  by_cases h : l.reverse.dropWhile p = []
  · rw [h]
    by_cases hc : p c = true <;> simp [hc]
  · simp [h]

theorem splitOn_cons_of_ne (h : c ≠ '\n') (s : List Char) : ∃ l ls,
    splitOn '\n' s = l :: ls ∧ splitOn '\n' (c :: s) = (c :: l) :: ls := by
  obtain ⟨l, ls, hsplit⟩ := List.exists_cons_of_ne_nil (splitOn_ne_nil '\n' s)
  exact ⟨l, ls, hsplit, by rw [splitOn, if_neg (by simpa using h), hsplit]⟩

/-- Without the blanks in front a text shows the same, but for blanks in front of the first line
that is shown. -/
theorem shownLines_dropWhile (h : shownLines s = l :: ls) :
    shownLines (s.dropWhile isBlank) = l.dropWhile isBlank :: ls := by
  induction s generalizing l with
  | nil => cases h
  | cons c s ih =>
    by_cases hfeed : c = '\n'
    · subst hfeed
      rw [List.dropWhile_cons_of_pos (by decide)]
      exact ih ((shownLines_append_feed [] s).symm.trans h)
    obtain ⟨p, ps, hs, hcs⟩ := splitOn_cons_of_ne hfeed s
    rw [shownLines, hcs, shown_cons, dropEndWhile_cons] at h
    by_cases hblank : isBlank c = true
    · rw [List.dropWhile_cons_of_pos hblank]
      by_cases hp : dropEndWhile isBlank p = []
      · rw [if_pos hp, if_pos hblank, if_pos rfl] at h
        exact ih (by rw [shownLines, hs, shown_cons, if_pos hp, h])
      · rw [if_neg hp, if_neg (List.cons_ne_nil _ _)] at h
        obtain ⟨rfl, hps⟩ := List.cons.inj h
        rw [List.dropWhile_cons_of_pos hblank]
        exact ih (by rw [shownLines, hs, shown_cons, if_neg hp, hps])
    · have hline : dropEndWhile isBlank (c :: p) = c :: dropEndWhile isBlank p := by
        rw [dropEndWhile_cons, if_neg hblank]
        split
        · next hp => rw [hp]
        · rfl
      rw [← dropEndWhile_cons, hline, if_neg (List.cons_ne_nil _ _)] at h
      obtain ⟨rfl, -⟩ := List.cons.inj h
      rw [List.dropWhile_cons_of_neg hblank, List.dropWhile_cons_of_neg hblank, shownLines, hcs,
        shown_cons, hline, if_neg (List.cons_ne_nil _ _), h]

end Text

namespace Markdown

variable {base : Option Url} {f : List Char → List Char} {c : Char} {l m s : List Char}
  {ls ms ns : List (List Char)} {inCode : Bool}

/-- Closing a text takes no more from what is shown than blanks in front. -/
theorem shownLines_closed_of_cons (h : Text.shownLines s = l :: ls) :
    Text.shownLines (closed s) = l.dropWhile Text.isBlank :: ls := by
  have hstart : closed s = closed (s.dropWhile Text.isBlank) := by
    rw [closed, closed, Text.trimWhile, Text.trimWhile, List.dropWhile_idempotent]
  rw [hstart, shownLines_closed, Text.shownLines_dropWhile h]
  intro c hc
  have hhead := List.head?_dropWhile_not Text.isBlank s
  rw [Option.mem_def.1 hc] at hhead
  simpa using hhead

/-! ## Code -/

/-- The lines in code; `inCode` tells whether code is open before them. -/
def codeOf : Bool → List (List Char) → List (List Char)
  | _, [] => []
  | inCode, l :: ls =>
    if isFence l then codeOf (!inCode) ls
    else if inCode then l :: codeOf inCode ls
    else codeOf inCode ls

/-- The lines of a text that stand in code. -/
def codeLines (s : List Char) : List (List Char) := codeOf false (Text.splitOn '\n' s)

/-- What may be open before a line: nothing, the bracket of a link, or that of a picture. -/
def openings : List (List Char) := ["".toList, "[".toList, "![".toList]

/-- A line that resolving links leaves as it is, whatever is open before it. -/
def IsFixed (base : Option Url) (line : List Char) : Prop :=
  ∀ front ∈ openings, absoluteLinks base (front ++ line) = front ++ line

/-- A line with its links resolved, with one of the openings before it. -/
def IsResolved (base : Option Url) (line line' : List Char) : Prop :=
  ∃ front ∈ openings, absoluteLinks base (front ++ line) = front ++ line'

theorem isFixed_none (l : List Char) : IsFixed none l := fun _ _ => rfl

/-- A line in which no link can end is fixed. -/
theorem isFixed_of_no_linkEnd (h : ¬ [']', '('] <:+: l) : IsFixed base l := by
  intro front hfront
  have hfree : ∀ front ∈ openings, ']' ∉ front := by decide
  cases base with
  | none => rfl
  | some url => rw [absoluteLinks_some, scan_append (hfree front hfront), scan_eq_self h]

theorem IsFixed.eq_of_isResolved (h : IsFixed base l) (hm : IsResolved base l m) : m = l := by
  obtain ⟨front, hfront, hresolved⟩ := hm
  exact (List.append_cancel_left ((h front hfront).symm.trans hresolved)).symm

theorem Bracket.exists_opening {b : Bracket} (h : b ≠ .bang) :
    ∃ front ∈ openings, ']' ∉ front ∧ front.foldl next outside = b := by
  cases b with
  | outside => exact ⟨_, .head _, by decide, rfl⟩
  | bang => exact absurd rfl h
  | link => exact ⟨_, .tail _ (.head _), by decide, rfl⟩
  | picture => exact ⟨_, .tail _ (.tail _ (.head _)), by decide, rfl⟩

theorem isResolved_scan {b : Bracket} (hb : b ≠ .bang) (url : Url) (l : List Char) :
    IsResolved (some url) l (scan url b l) := by
  obtain ⟨front, hfront, hfree, rfl⟩ := Bracket.exists_opening hb
  exact ⟨front, hfront, by rw [absoluteLinks_some, scan_append hfree]⟩

/-- Links are resolved line by line. -/
theorem absoluteLinks_unlines (base : Option Url) (hne : ls ≠ []) :
    ∃ ns, absoluteLinks base (Text.unlines ls) = Text.unlines ns ∧
      List.Forall₂ (IsResolved base) ls ns := by
  cases base with
  | none =>
    refine ⟨ls, rfl, List.forall₂_same.2 fun l _ => ⟨[], .head _, rfl⟩⟩
  | some url =>
    rw [absoluteLinks_some]
    suffices ∀ b : Bracket, b ≠ .bang → ∃ ns, scan url b (Text.unlines ls) = Text.unlines ns ∧
        List.Forall₂ (IsResolved (some url)) ls ns from this _ (by decide)
    induction ls with
    | nil => exact absurd rfl hne
    | cons l ls ih =>
      intro b hb
      by_cases hls : ls = []
      · subst hls
        exact ⟨[scan url b l], rfl, .cons (isResolved_scan hb url l) .nil⟩
      · obtain ⟨b', hb', hscan⟩ := exists_scan_blank url b l (c := '\n') (by decide)
        obtain ⟨ns, hns, hall⟩ := ih hls b' hb'
        have hns' : ns ≠ [] := fun e => by
          rw [e] at hall
          exact hls (List.forall₂_nil_right_iff.1 hall)
        refine ⟨scan url b l :: ns, ?_, .cons (isResolved_scan hb url l) hall⟩
        rw [Text.unlines_cons hls, hscan, hns, Text.unlines_cons hns']

theorem absoluteLinks_append_blanks (base : Option Url) (l : List Char)
    (h : ∀ c ∈ s, Text.isBlank c = true) :
    absoluteLinks base (l ++ s) = absoluteLinks base l ++ s := by
  cases base with
  | none => rfl
  | some url => rw [absoluteLinks_some, absoluteLinks_some, scan_append_blanks url _ l h]

/-- Blanks at the end of a line do not count. -/
theorem isFixed_dropEndWhile : IsFixed base (Text.dropEndWhile Text.isBlank l) ↔ IsFixed base l := by
  obtain ⟨back, hl, hback⟩ := Text.exists_append_dropEndWhile Text.isBlank l
  refine forall₂_congr fun front _ => ?_
  conv_rhs => rw [hl, ← List.append_assoc, absoluteLinks_append_blanks base _ hback]
  exact List.append_left_inj back |>.symm

theorem isFixed_of_dropEndWhile_eq (h : IsFixed base l)
    (heq : Text.dropEndWhile Text.isBlank m = Text.dropEndWhile Text.isBlank l) :
    IsFixed base m := by
  rw [← isFixed_dropEndWhile, heq, isFixed_dropEndWhile]
  exact h

/-- What stands before the first closing bracket stays. -/
theorem prefix_of_isResolved {front : List Char} (h : IsResolved base (front ++ l) m)
    (hfront : ']' ∉ front) : front <+: m := by
  obtain ⟨opening, hopening, heq⟩ := h
  have hfree : ∀ opening ∈ openings, ']' ∉ opening := by decide
  refine (List.prefix_append_right_inj opening).1 ?_
  rw [← heq, ← List.append_assoc]
  cases base with
  | none => exact List.prefix_append _ _
  | some url =>
    rw [absoluteLinks_some, scan_append (by simp [hfree opening hopening, hfront])]
    exact List.prefix_append _ _

/-- A fence shows something after its links are resolved. -/
theorem shownLines_ne_nil_of_isResolved (hfence : isFence l = true) (h : IsResolved base l m) :
    Text.shownLines m ≠ [] := by
  rw [isFence, List.isPrefixOf_iff_prefix] at hfence
  obtain ⟨rest, hrest⟩ := hfence
  have hblanks : ']' ∉ l.takeWhile Text.isBlank := fun hmem => by
    cases List.mem_takeWhile_imp hmem
  have hl : l = (l.takeWhile Text.isBlank ++ ticks) ++ rest := by
    rw [List.append_assoc, hrest, List.takeWhile_append_dropWhile]
  rw [hl] at h
  have hstart := prefix_of_isResolved h (by simp [hblanks, ticks])
  refine Text.shownLines_ne_nil (c := '\x60') (hstart.subset ?_) (by decide)
  exact List.mem_append_right _ List.mem_cons_self

/-- A line as it comes to the pass over wrapper tags: a fence or not as before, and in code with
nothing lost that shows. -/
structure IsRead (l m : List Char) : Prop where
  feed : '\n' ∉ m
  fence : isFence m = isFence l
  code : isFence l = false → Text.dropEndWhile Text.isBlank m = Text.dropEndWhile Text.isBlank l

theorem isRead_prepared (h : '\n' ∉ l) : IsRead l (prepared l) := by
  refine ⟨fun hmem => h (prepared_subset l hmem), isFence_prepared l, fun hfence => ?_⟩
  have hmarked := (isSpared_of_isFence_eq_false hfence).1
  rw [prepared_of_not_isMarked hmarked, Text.dropEndWhile_dropReturn, Text.dropEndWhile_dropReturn]

theorem isRead_plainLanguage (h : '\n' ∉ l) : IsRead l (plainLanguage l) := by
  refine ⟨fun hmem => h ((plainLanguage_sublist l).subset hmem), isFence_plainLanguage l,
    fun hfence => ?_⟩
  rw [plainLanguage_of_not_isMarked (isSpared_of_isFence_eq_false hfence).1]

theorem forall₂_isRead (hls : ∀ l ∈ ls, '\n' ∉ l) (hl : '\n' ∉ l) :
    List.Forall₂ IsRead (ls ++ [l]) (ls.map prepared ++ [plainLanguage l]) := by
  induction ls with
  | nil => exact .cons (isRead_plainLanguage hl) .nil
  | cons m ls ih =>
    obtain ⟨hm, hls⟩ := List.forall_mem_cons.1 hls
    exact .cons (isRead_prepared hm) (ih hls)

/-- Lines of code that are fixed are shown in order. -/
theorem sublist_flatMap_shownLines (hread : List.Forall₂ IsRead ls ms)
    (hresolved : List.Forall₂ (IsResolved base) (mapOutside f inCode ms) ns)
    (hfixed : ∀ l ∈ codeOf inCode ls, IsFixed base l) :
    (Text.shown (codeOf inCode ls)).Sublist (ns.flatMap Text.shownLines) := by
  induction hread generalizing inCode ns with
  | nil => exact List.nil_sublist _
  | @cons l m ls ms hlm _ ih =>
    rw [codeOf] at hfixed ⊢
    rw [mapOutside, hlm.fence] at hresolved
    by_cases hfence : isFence l = true
    · rw [if_pos hfence] at hfixed hresolved ⊢
      obtain ⟨n, ns, -, hns, rfl⟩ := List.forall₂_cons_left_iff.1 hresolved
      rw [List.flatMap_cons]
      exact (ih hns hfixed).trans (List.sublist_append_right _ _)
    · rw [if_neg hfence] at hfixed hresolved ⊢
      obtain ⟨n, ns, hn, hns, rfl⟩ := List.forall₂_cons_left_iff.1 hresolved
      rw [List.flatMap_cons]
      cases inCode with
      | false => exact (ih hns hfixed).trans (List.sublist_append_right _ _)
      | true =>
        obtain ⟨hl, hls⟩ := List.forall_mem_cons.1 hfixed
        have hcode := hlm.code (Bool.eq_false_iff.2 hfence)
        have hn : n = m := (isFixed_of_dropEndWhile_eq hl hcode).eq_of_isResolved hn
        have hshown : Text.shownLines n = Text.shown [l] := by
          rw [hn, Text.shownLines_of_not_mem hlm.feed, Text.shown_cons, Text.shown_cons, hcode]
        rw [hshown, if_pos rfl]
        show (Text.shown ([l] ++ codeOf true ls)).Sublist _
        rw [Text.shown_append]
        exact (ih hns hls).append_left _

/-- Code starts behind a fence, which is shown before it. -/
theorem sublist_tail_flatMap_shownLines (hread : List.Forall₂ IsRead ls ms)
    (hresolved : List.Forall₂ (IsResolved base) (mapOutside f false ms) ns)
    (hfixed : ∀ l ∈ codeOf false ls, IsFixed base l) :
    (Text.shown (codeOf false ls)).Sublist (ns.flatMap Text.shownLines).tail := by
  induction hread generalizing ns with
  | nil => exact List.nil_sublist _
  | @cons l m ls ms hlm hlsms ih =>
    rw [codeOf] at hfixed ⊢
    rw [mapOutside, hlm.fence] at hresolved
    by_cases hfence : isFence l = true
    · rw [if_pos hfence] at hfixed hresolved ⊢
      obtain ⟨n, ns, hn, hns, rfl⟩ := List.forall₂_cons_left_iff.1 hresolved
      have hne := shownLines_ne_nil_of_isResolved (hlm.fence.trans hfence) hn
      rw [List.flatMap_cons, List.tail_append_of_ne_nil hne]
      exact (sublist_flatMap_shownLines hlsms hns hfixed).trans (List.sublist_append_right _ _)
    · rw [if_neg hfence] at hfixed hresolved ⊢
      obtain ⟨n, ns, -, hns, rfl⟩ := List.forall₂_cons_left_iff.1 hresolved
      rw [List.flatMap_cons]
      exact (ih hns hfixed).trans (List.sublist_append_right _ _).tail

/-! ## Texts -/

/-- What is shown of a tidied text, from the lines that its links are resolved in. -/
theorem shownLines_tidy_of_cons (hls : ∀ l ∈ ls, '\n' ∉ l) (hl : '\n' ∉ l)
    (hresolved : absoluteLinks base (Text.unlines (mapOutside dropWrappers false
      (ls.map prepared ++ [plainLanguage l]))) = Text.unlines ns) (hne : ns ≠ [])
    (hshown : ns.flatMap Text.shownLines = m :: ms) :
    Text.shownLines (tidy base (Text.unlines (ls ++ [l]))) = m.dropWhile Text.isBlank :: ms := by
  rw [tidy, linePasses_unlines hls hl, hresolved]
  refine shownLines_closed_of_cons ?_
  have hcollapse := shownLines_collapseFeeds (n := 0) (a := [])
    (s := trimLineEnds (Text.unlines ns)) (.inl rfl)
  refine hcollapse.trans ?_
  rw [List.nil_append, shownLines_trimLineEnds, Text.shownLines_unlines_flatMap hne, hshown]

/-- A text keeps its code where all lines of it are fixed. -/
theorem sublist_shownLines_tidy (h : ∀ l ∈ codeLines s, IsFixed base l) :
    (Text.shown (codeLines s)).Sublist (Text.shownLines (tidy base s)) := by
  obtain ⟨ls, l, hsplit, hs, hls, hl⟩ := Text.exists_unlines s
  rw [codeLines, hsplit] at h ⊢
  have hread := forall₂_isRead hls hl
  have hlines : mapOutside dropWrappers false (ls.map prepared ++ [plainLanguage l]) ≠ [] :=
    mapOutside_ne_nil (by simp) false
  obtain ⟨ns, hns, hresolved⟩ := absoluteLinks_unlines base hlines
  have hne : ns ≠ [] := fun e => by
    rw [e] at hresolved
    exact hlines (List.forall₂_nil_right_iff.1 hresolved)
  have hcode := sublist_tail_flatMap_shownLines hread hresolved h
  cases hshown : ns.flatMap Text.shownLines with
  | nil =>
    rw [hshown] at hcode
    exact hcode.trans (List.nil_sublist _)
  | cons m ms =>
    rw [hshown] at hcode
    rw [hs, shownLines_tidy_of_cons hls hl hns hne hshown]
    exact hcode.cons _

/-! ## Lines that are lost -/

/-- A fence with an opening at its end is taken over as it is. -/
theorem fence_append_opening {front : List Char} (h : front ∈ openings) :
    '\n' ∉ ticks ++ front ∧ prepared (ticks ++ front) = ticks ++ front ∧
      Text.shownLines (ticks ++ front) = [ticks ++ front] ∧
      (ticks ++ front).dropWhile Text.isBlank = ticks ++ front := by
  revert front
  decide

theorem codeLines_behind {front : List Char} (hfront : front ∈ openings) (hl : '\n' ∉ l)
    (hfence : isFence l = false) : codeLines (Text.unlines [ticks ++ front, l]) = [l] := by
  have hfeed := (fence_append_opening hfront).1
  have hsplit := Text.splitOn_unlines (List.forall_mem_singleton.2 hfeed) hl
  rw [List.singleton_append] at hsplit
  rw [codeLines, hsplit]
  simp [codeOf, isFence_ticks_append, hfence]

/-- Behind a fence with an opening at its end the links of a line are resolved as they are right
behind the opening. -/
theorem absoluteLinks_behind {front : List Char} (hfront : front ∈ openings) (url : Url)
    (l : List Char) : absoluteLinks (some url) (Text.unlines [ticks ++ front, l]) =
      Text.unlines [ticks ++ front, scan url (front.foldl Bracket.next .outside) l] := by
  have hstate : ∀ front ∈ openings, ']' ∉ ticks ++ front ++ ['\n'] ∧
      (ticks ++ front ++ ['\n']).foldl Bracket.next .outside =
        front.foldl Bracket.next .outside := by decide
  obtain ⟨hfree, hstate⟩ := hstate front hfront
  have hlines : ∀ m, Text.unlines [ticks ++ front, m] = ticks ++ front ++ ['\n'] ++ m := fun m => by
    rw [Text.unlines_cons (List.cons_ne_nil m []), List.append_assoc, List.append_assoc]
    rfl
  rw [hlines, hlines, absoluteLinks_some, scan_append hfree, hstate]

theorem shownLines_tidy_behind {front : List Char} (hfront : front ∈ openings) (url : Url)
    (hl : '\n' ∉ l) (hfence : isFence l = false) :
    Text.shownLines (tidy (some url) (Text.unlines [ticks ++ front, l])) = (ticks ++ front) ::
      Text.shownLines (scan url (front.foldl Bracket.next .outside) l) := by
  obtain ⟨hfeed, hprepared, hshown, hdrop⟩ := fence_append_opening hfront
  have hpasses : mapOutside dropWrappers false ([ticks ++ front].map prepared ++
      [plainLanguage l]) = [ticks ++ front, l] := by
    rw [List.map_singleton, hprepared,
      plainLanguage_of_not_isMarked (isSpared_of_isFence_eq_false hfence).1]
    simp [mapOutside, isFence_ticks_append, hfence]
  have hresolved : absoluteLinks (some url) (Text.unlines (mapOutside dropWrappers false
      ([ticks ++ front].map prepared ++ [plainLanguage l]))) =
      Text.unlines [ticks ++ front, scan url (front.foldl Bracket.next .outside) l] := by
    rw [hpasses, absoluteLinks_behind hfront]
  have htidy := shownLines_tidy_of_cons (List.forall_mem_singleton.2 hfeed) hl hresolved
    (List.cons_ne_nil _ _) (by rw [List.flatMap_cons, hshown, List.flatMap_singleton]; rfl)
  rw [hdrop] at htidy
  exact htidy

/-- A line that a scan changes is changed before the blanks at its end. -/
theorem dropEndWhile_scan_ne {url : Url} {b : Bracket} (h : scan url b l ≠ l) :
    Text.dropEndWhile Text.isBlank (scan url b l) ≠ Text.dropEndWhile Text.isBlank l := by
  obtain ⟨back, hl, hback⟩ := Text.exists_append_dropEndWhile Text.isBlank l
  rw [dropEndWhile_scan]
  intro heq
  refine h ?_
  conv_lhs => rw [hl, scan_append_blanks url b _ hback, heq]
  exact hl.symm

/-- A line that is not fixed is lost behind a fence with an opening at its end. -/
theorem exists_lost (hbase : ∀ b, base = some b → b.IsOneLine) (hl : '\n' ∉ l)
    (hfence : isFence l = false) (h : ¬ IsFixed base l) : ∃ s, codeLines s = [l] ∧
      ¬ (Text.shown (codeLines s)).Sublist (Text.shownLines (tidy base s)) := by
  cases base with
  | none => exact absurd (isFixed_none l) h
  | some url =>
    obtain ⟨front, hfront, hchanged⟩ : ∃ front ∈ openings,
        absoluteLinks (some url) (front ++ l) ≠ front ++ l := by
      simpa [IsFixed] using h
    have hfree : ∀ front ∈ openings, ']' ∉ front := by decide
    have hscan : scan url (front.foldl Bracket.next .outside) l ≠ l := fun heq =>
      hchanged (by rw [absoluteLinks_some, scan_append (hfree front hfront), heq])
    have hfeed : '\n' ∉ scan url (front.foldl Bracket.next .outside) l := fun hmem => by
      obtain hmem | ⟨text, u, hu, hmem⟩ := mem_of_mem_scan hmem
      · exact hl hmem
      · exact (Url.isOneLine_of_join (hbase url rfl) hu).toString hmem
    have hline : Text.dropEndWhile Text.isBlank l ≠ [] := fun hnil => by
      refine dropEndWhile_scan_ne hscan ?_
      rw [dropEndWhile_scan, hnil, scan]
    refine ⟨_, codeLines_behind hfront hl hfence, ?_⟩
    rw [codeLines_behind hfront hl hfence, shownLines_tidy_behind hfront url hl hfence,
      Text.shownLines_of_not_mem hfeed, Text.shown_cons, if_neg hline, Text.shown_nil,
      List.singleton_sublist, List.mem_cons, not_or]
    constructor
    · intro heq
      have hopen := isFence_dropEndWhile l
      rw [heq, isFence_ticks_append, hfence] at hopen
      cases hopen
    · intro hmem
      obtain ⟨m, hm, heq⟩ := List.mem_map.1 (List.mem_of_mem_filter hmem)
      rw [List.mem_singleton.1 hm] at heq
      exact dropEndWhile_scan_ne hscan heq

/-- Code is kept where all lines of it are fixed, and of any line that is not fixed there is a text
in which it stands in code and is lost. -/
theorem code_kept_of_isFixed (base : Option Url) :
    (∀ s, (∀ l ∈ codeLines s, IsFixed base l) →
      (Text.shown (codeLines s)).Sublist (Text.shownLines (tidy base s))) ∧
    ((∀ b, base = some b → ∃ text, Url.read text = .ok b) →
      ∀ l, '\n' ∉ l → isFence l = false → ¬ IsFixed base l → ∃ s, codeLines s = [l] ∧
        ¬ (Text.shown (codeLines s)).Sublist (Text.shownLines (tidy base s))) := by
  refine ⟨fun s => sublist_shownLines_tidy, fun hbase l hl hfence h => ?_⟩
  refine exists_lost (fun b hb => ?_) hl hfence h
  obtain ⟨text, htext⟩ := hbase b hb
  exact Url.isOneLine_of_read htext

/-- A base that holds no more than a root. -/
def rootBase : Url := ⟨['a'], none, .segments [[]], none, none⟩

theorem read_rootBase : Url.read "a:/" = .ok rootBase := by cbv

theorem absoluteTarget_rootBase : absoluteTarget rootBase ['x'] = "a:/x".toList := by
  have hread : Url.read (String.ofList ['x']) = .error .noBase := by cbv
  have hjoin : rootBase.join (String.ofList ['x']) =
      .ok ⟨['a'], none, .segments [['x']], none, none⟩ := by cbv
  have hsettled : isSettled ['x'] = false := by
    rw [isSettled, hread]
    rfl
  rw [absoluteTarget, hsettled, if_neg Bool.false_ne_true, hjoin]
  decide

/-- A block of code in which no link can end. -/
def indexInCode : List Char := "\x60\x60\x60\nv[0] = f(x)\n\x60\x60\x60\n".toList

theorem not_isFixed_link : ¬ IsFixed (some rootBase) "[a](x)".toList := by
  intro hfixed
  have hresolved := hfixed [] (.head _)
  have hcut : [] ++ "[a](x)".toList = ['['] ++ ("a".toList ++ (linkEnd ['x'] ++ [])) := by decide
  have htarget : IsTarget ['x'] :=
    ⟨List.cons_ne_nil _ _, List.forall_mem_singleton.2 ⟨by decide, by decide⟩⟩
  rw [hcut, absoluteLinks_some, scan_append (by decide), scan_text rfl (by decide) htarget, scan,
    Bracket.written, if_pos (by decide), absoluteTarget_rootBase] at hresolved
  revert hresolved
  decide

theorem code_kept_indexInCode :
    (∀ l ∈ codeLines indexInCode, IsFixed (some rootBase) l) ∧
      (Text.shown (codeLines indexInCode)).Sublist
        (Text.shownLines (tidy (some rootBase) indexInCode)) ∧
      ¬ IsFixed (some rootBase) "[a](x)".toList ∧
      ∃ s, codeLines s = ["[a](x)".toList] ∧
        ¬ (Text.shown (codeLines s)).Sublist (Text.shownLines (tidy (some rootBase) s)) := by
  have hlines : codeLines indexInCode = ["v[0] = f(x)".toList] := by decide
  have hfixed : ∀ l ∈ codeLines indexInCode, IsFixed (some rootBase) l := by
    rw [hlines]
    exact List.forall_mem_singleton.2 (isFixed_of_no_linkEnd (by decide))
  obtain ⟨hkept, hlost⟩ := code_kept_of_isFixed (some rootBase)
  refine ⟨hfixed, hkept _ hfixed, not_isFixed_link, ?_⟩
  refine hlost (fun b hb => ⟨"a:/", ?_⟩) _ (by decide) (by decide) not_isFixed_link
  rw [← Option.some.inj hb]
  exact read_rootBase

/-- A block of code with a relative link in it. -/
def linkInCode : List Char := "\x60\x60\x60\n[a](x)\n\x60\x60\x60\n".toList

theorem tidy_linkInCode :
    tidy (some rootBase) linkInCode = "\x60\x60\x60\n[a](a:/x)\n\x60\x60\x60\n".toList := by
  have hpasses : mapOutsideFences dropWrappers (plainLanguages
      (Text.replaceAll ['\r', '\n'] ['\n'] linkInCode)) =
      (ticks ++ "\n[".toList) ++ ("a".toList ++ (linkEnd ['x'] ++ '\n' :: ticks ++ ['\n'])) := by
    decide
  have hfront : ']' ∉ ticks ++ "\n[".toList := by decide
  have hback : ¬ [']', '('] <:+: '\n' :: ticks ++ ['\n'] := by decide
  have hopen : (ticks ++ "\n[".toList).foldl Bracket.next .outside = .link := by decide
  have htext : ']' ∉ "a".toList := by decide
  have htarget : IsTarget ['x'] :=
    ⟨List.cons_ne_nil _ _, List.forall_mem_singleton.2 ⟨by decide, by decide⟩⟩
  rw [tidy, hpasses, absoluteLinks_some, scan_append hfront, hopen,
    List.append_assoc (linkEnd ['x']), scan_text rfl htext htarget, scan_eq_self hback,
    Bracket.written, if_pos rfl, absoluteTarget_rootBase]
  decide

/-- With a base for links the code of a text may be changed. -/
theorem tidy_changes_code : ¬ ∀ (text : String) (base : Url) (s : List Char),
    Url.read text = .ok base →
    (Text.shown (codeLines s)).Sublist (Text.shownLines (tidy (some base) s)) := by
  intro hall
  have hlost := hall "a:/" rootBase linkInCode read_rootBase
  rw [tidy_linkInCode] at hlost
  revert hlost
  decide

end Markdown

end ContextCompiler
