import ContextCompiler.Proofs.Glob.PathFilter
import ContextCompiler.Proofs.Text.Lines
import ContextCompiler.Sources.Changes

/-!
Sections of changes.

A section starts with a line that holds the path of its file twice, behind `a/` and behind `b/`. The
path is read from behind the last ` b/` of the line. That is the path itself just where it has no
such part, so sections of other files may be kept or dropped by a piece of their path.
-/

namespace ContextCompiler

/-! ## The last place of a separator -/

namespace Text

variable {c : Char} {q s a b : List Char} {parts : List (List Char)}

/-- A text whose last character stands nowhere else in it does not overlap with itself. -/
theorem prefix_of_prefix_append_self (hc : c ∉ q) (hb : b ≠ [])
    (h : q ++ [c] <+: b ++ (q ++ [c] ++ a)) : q ++ [c] <+: b := by
  obtain ⟨r, hr⟩ := h
  have hfirst := splitFirst_append hc r
  rw [List.append_assoc, List.singleton_append] at hr
  rw [hr] at hfirst
  by_cases hmem : c ∈ b
  · obtain ⟨b₁, b₂, rfl, hb₁⟩ := List.eq_append_cons_of_mem hmem
    rw [List.append_assoc, List.cons_append, splitFirst_append hb₁] at hfirst
    cases hfirst
    exact ⟨b₂, by simp⟩
  · have hfree : c ∉ b ++ q := by simp [hmem, hc]
    have hwhole : b ++ (q ++ [c] ++ a) = b ++ q ++ c :: a := by simp
    rw [hwhole, splitFirst_append hfree] at hfirst
    have hlength := congrArg List.length (Prod.mk.inj (Option.some.inj hfirst)).1
    rw [List.length_append] at hlength
    exact absurd (List.length_eq_zero_iff.1 (by omega)) hb

theorem splitFirst_append_self (hc : c ∉ q) (a b : List Char) :
    splitFirst (q ++ [c]) (b ++ (q ++ [c] ++ a)) =
      match splitFirst (q ++ [c]) b with
      | some (x, y) => some (x, y ++ (q ++ [c] ++ a))
      | none => some (b, a) := by
  induction b with
  | nil =>
    have hne : q ++ [c] ≠ [] := by simp
    have hnone : splitFirst (q ++ [c]) [] = none := by simp [splitFirst]
    obtain ⟨d, p, hp⟩ := List.exists_cons_of_ne_nil hne
    rw [hnone, List.nil_append, hp, List.cons_append, splitFirst, ← List.cons_append,
      dropPrefix?_eq_some_iff.2 rfl]
  | cons d b ih =>
    rw [List.cons_append, splitFirst, splitFirst]
    cases hdrop : dropPrefix? (q ++ [c]) (d :: b) with
    | some r =>
      rw [dropPrefix?_eq_some_iff] at hdrop
      rw [← List.cons_append, hdrop, List.append_assoc (q ++ [c]),
        dropPrefix?_eq_some_iff.2 rfl]
    | none =>
      have hnone : dropPrefix? (q ++ [c]) (d :: (b ++ (q ++ [c] ++ a))) = none := by
        rw [Option.eq_none_iff_forall_ne_some] at hdrop ⊢
        intro r hr
        obtain ⟨r', hr'⟩ := prefix_of_prefix_append_self hc (List.cons_ne_nil d b)
          ⟨r, (dropPrefix?_eq_some_iff.1 hr).symm⟩
        exact hdrop r' (dropPrefix?_eq_some_iff.2 hr'.symm)
      rw [hnone]
      dsimp only
      rw [ih]
      cases splitFirst (q ++ [c]) b <;> rfl

/-- What follows the last separator, or the whole text where there is none. -/
def afterLast (sep s : List Char) : List Char :=
  match splitLast sep s with
  | some (_, b) => b
  | none => s

theorem splitLast_append_self (hc : c ∉ q) (a b : List Char) :
    ∃ front, splitLast (c :: q) (a ++ (c :: q) ++ b) = some (front, afterLast (c :: q) b) := by
  have hrev : (a ++ (c :: q) ++ b).reverse = b.reverse ++ (q.reverse ++ [c] ++ a.reverse) := by simp
  rw [afterLast, splitLast, splitLast, List.reverse_cons, hrev,
    splitFirst_append_self (by rwa [List.mem_reverse])]
  cases splitFirst (q.reverse ++ [c]) b.reverse with
  | none => exact ⟨a, by simp⟩
  | some r => exact ⟨(r.2 ++ (q.reverse ++ [c] ++ a.reverse)).reverse, rfl⟩

theorem splitFirst_eq_none_iff {p : List Char} : splitFirst p s = none ↔ ¬ p <:+: s := by
  induction s with
  | nil =>
    rw [splitFirst, List.infix_nil]
    cases p <;> simp
  | cons d s ih =>
    rw [splitFirst, List.infix_cons_iff, not_or, ← ih]
    cases hdrop : dropPrefix? p (d :: s) with
    | some r =>
      have hfront : p <+: d :: s := ⟨r, (dropPrefix?_eq_some_iff.1 hdrop).symm⟩
      simp [hfront]
    | none =>
      have hfront : ¬ p <+: d :: s := by
        rintro ⟨r, hr⟩
        rw [dropPrefix?_eq_some_iff.2 hr.symm] at hdrop
        cases hdrop
      simp [hfront]

/-- A text has nothing after a last separator just when it has no separator. -/
theorem afterLast_of_not_infix (h : ¬ q <:+: s) : afterLast q s = s := by
  have hnone : splitFirst q.reverse s.reverse = none := by
    rwa [splitFirst_eq_none_iff, List.reverse_infix]
  rw [afterLast, splitLast, hnone]
  rfl

theorem afterLast_suffix (q s : List Char) : afterLast q s <:+ s := by
  unfold afterLast
  split
  · next a b hsplit => exact ⟨a ++ q, (splitLast_eq_some hsplit).symm⟩
  · exact List.suffix_rfl

theorem length_afterLast_lt (h : q <:+: s) (hq : q ≠ []) : (afterLast q s).length < s.length := by
  unfold afterLast
  split
  · next a b hsplit =>
    rw [splitLast_eq_some hsplit, List.length_append, List.length_append]
    have := List.length_pos_iff.2 hq
    omega
  · next hnone =>
    rw [splitLast, Option.map_eq_none_iff, splitFirst_eq_none_iff, List.reverse_infix] at hnone
    exact absurd h hnone

/-! ## Lines of texts put together -/

theorem chunks_eq_nil (s : List Char) : chunks s = [] ↔ s = [] := by
  refine ⟨fun h => ?_, fun h => h ▸ rfl⟩
  rw [← flatten_chunks s, h, List.flatten_nil]

theorem chunks_append (h : a = [] ∨ a.getLast? = some '\n') (b : List Char) :
    chunks (a ++ b) = chunks a ++ chunks b := by
  induction a with
  | nil => rfl
  | cons c a ih =>
    have hlast := h.resolve_left (List.cons_ne_nil c a)
    rw [List.cons_append, chunks, chunks]
    cases a with
    | nil =>
      obtain rfl : c = '\n' := by simpa using hlast
      simp [chunks]
    | cons d a =>
      rw [List.getLast?_cons_cons] at hlast
      rw [ih (.inr hlast)]
      split
      · rfl
      · obtain ⟨piece, rest, hchunks⟩ :=
          List.exists_cons_of_ne_nil (mt (chunks_eq_nil (d :: a)).1 (List.cons_ne_nil d a))
        rw [hchunks]
        rfl

/-- Texts that end in a line feed, but for the last, are cut one by one. -/
theorem chunks_flatten (h : ∀ part ∈ parts.dropLast, part = [] ∨ part.getLast? = some '\n') :
    chunks parts.flatten = parts.flatMap chunks := by
  induction parts with
  | nil => rfl
  | cons part parts ih =>
    cases parts with
    | nil => simp
    | cons next parts =>
      rw [List.dropLast_cons_cons] at h
      obtain ⟨hpart, hparts⟩ := List.forall_mem_cons.1 h
      rw [List.flatten_cons, chunks_append hpart, ih hparts]
      rfl

end Text

namespace GitDiffSource

/-! ## Sections -/

/-- What stands between the two places of the path in the first line of a section. -/
def newMark : List Char := [' ', 'b', '/']

def headerLine (path : List Char) : List Char :=
  sectionMark ++ 'a' :: '/' :: path ++ newMark ++ path

/-- No line of the text starts a section. -/
def IsPlain (s : List Char) : Prop :=
  ∀ line ∈ Text.chunks s, ¬ sectionMark <+: line

instance (s : List Char) : Decidable (IsPlain s) :=
  inferInstanceAs (Decidable (∀ line ∈ Text.chunks s, ¬ sectionMark <+: line))

/-- A section: its first line without and with the line end, and the lines behind it. -/
structure DiffSection where
  path : List Char
  ending : List Char
  body : List Char
  path_no_feed : '\n' ∉ path
  path_end : ∀ c ∈ path.getLast?, Text.isBlank c = false
  ending_eq : ending = ['\n'] ∨ ending = ['\r', '\n'] ∨ ending = [] ∧ body = []
  body_plain : IsPlain body

def DiffSection.text (s : DiffSection) : List Char := headerLine s.path ++ s.ending ++ s.body

/-- A text of changes: what stands before the first section, and the sections. -/
def diffText (preamble : List Char) (sections : List DiffSection) : List Char :=
  (preamble :: sections.map DiffSection.text).flatten

/-- The preamble starts no section, and each part starts on a line of its own. -/
structure IsDiff (preamble : List Char) (sections : List DiffSection) : Prop where
  plain : IsPlain preamble
  apart : ∀ part ∈ (preamble :: sections.map DiffSection.text).dropLast,
    part = [] ∨ part.getLast? = some '\n'

/-- What is read as the path of a section. -/
def readPath (path : List Char) : List Char := Text.afterLast newMark path

variable {filter : PathFilter} {preamble line path gap : List Char} {lines : List (List Char)}
  {sections : List DiffSection}

theorem sectionPath?_plain (h : ¬ sectionMark <+: line) : sectionPath? line = none := by
  rw [sectionPath?, Option.map_eq_none_iff, Option.eq_none_iff_forall_ne_some]
  intro r hr
  exact h ⟨r, (Text.dropPrefix?_eq_some_iff.1 hr).symm⟩

theorem sectionPath?_headerLine (hpath : ∀ c ∈ path.getLast?, Text.isBlank c = false)
    (hgap : ∀ c ∈ gap, Text.isBlank c = true) :
    sectionPath? (headerLine path ++ gap) = some (String.ofList (readPath path)) := by
  have hdrop : Text.dropPrefix? sectionMark (headerLine path ++ gap) =
      some ('a' :: '/' :: path ++ newMark ++ path ++ gap) := by
    rw [Text.dropPrefix?_eq_some_iff, headerLine]
    simp only [List.append_assoc]
  have hend : ∀ c ∈ ('a' :: '/' :: path ++ newMark ++ path).getLast?, Text.isBlank c = false := by
    intro c hc
    rw [List.getLast?_append] at hc
    cases hlast : path.getLast? with
    | none =>
      rw [hlast, Option.none_or, List.getLast?_append] at hc
      obtain rfl : '/' = c := Option.some.inj hc
      decide
    | some d =>
      rw [hlast] at hc
      exact hpath c (hlast ▸ hc)
  obtain ⟨front, hsplit⟩ := Text.splitLast_append_self (c := ' ') (q := ['b', '/']) (by decide)
    ('a' :: '/' :: path) path
  rw [sectionPath?, hdrop, Option.map_some]
  dsimp only
  rw [Text.dropEndWhile_append hgap, Text.dropEndWhile_eq_self hend]
  rw [newMark, hsplit]
  rfl

/-- Lines that start no section stay or go with the section they are in. -/
theorem keepSections_append (h : ∀ line ∈ lines, ¬ sectionMark <+: line) (keeps : Bool)
    (rest : List (List Char)) :
    keepSections filter keeps (lines ++ rest) =
      (if keeps then lines else []) ++ keepSections filter keeps rest := by
  induction lines with
  | nil => cases keeps <;> rfl
  | cons line lines ih =>
    obtain ⟨hline, hlines⟩ := List.forall_mem_cons.1 h
    rw [List.cons_append, keepSections, sectionPath?_plain hline]
    dsimp only
    rw [ih hlines]
    cases keeps <;> rfl

theorem DiffSection.chunks_text (s : DiffSection) :
    Text.chunks s.text = (headerLine s.path ++ s.ending) :: Text.chunks s.body := by
  have hmark : '\n' ∉ sectionMark := by decide
  have hheader : '\n' ∉ headerLine s.path := by
    simp [headerLine, newMark, hmark, s.path_no_feed]
  rw [text]
  rcases s.ending_eq with hending | hending | ⟨hending, hbody⟩ <;> rw [hending]
  · rw [List.append_assoc, List.singleton_append, Text.chunks_append_feed hheader]
  · have hreturn : '\n' ∉ headerLine s.path ++ ['\r'] := by simp [hheader]
    have := Text.chunks_append_feed hreturn s.body
    simpa using this
  · rw [hbody, List.append_nil, List.append_nil, Text.chunks_of_not_mem hheader,
      if_neg (by simp [headerLine])]
    rfl

/-- The lines of a section stay just when what is read as its path passes the filter. -/
theorem keepSections_section (s : DiffSection) (keeps : Bool) (rest : List (List Char)) :
    keepSections filter keeps (Text.chunks s.text ++ rest) =
      (if filter.selects (String.ofList (readPath s.path)) then Text.chunks s.text else []) ++
        keepSections filter (filter.selects (String.ofList (readPath s.path))) rest := by
  have hgap : ∀ c ∈ s.ending, Text.isBlank c = true := by
    rcases s.ending_eq with hending | hending | ⟨hending, -⟩ <;> simp [hending, Text.isBlank]
  rw [s.chunks_text, List.cons_append, keepSections, sectionPath?_headerLine s.path_end hgap]
  dsimp only
  rw [keepSections_append s.body_plain]
  by_cases hselects : filter.selects (String.ofList (readPath s.path)) = true
  · rw [if_pos hselects, if_pos hselects, if_pos hselects]
    rfl
  · rw [if_neg hselects, if_neg hselects, if_neg hselects]

theorem keepSections_sections (sections : List DiffSection) (keeps : Bool) :
    (keepSections filter keeps (sections.flatMap fun s => Text.chunks s.text)).flatten =
      ((sections.filter fun s => filter.selects (String.ofList (readPath s.path))).map
        DiffSection.text).flatten := by
  induction sections generalizing keeps with
  | nil => rfl
  | cons s sections ih =>
    rw [List.flatMap_cons, keepSections_section, List.flatten_append, ih, List.filter_cons]
    split
    · rw [Text.flatten_chunks]
      rfl
    · rfl

theorem filterSections_eq (h : IsDiff preamble sections) (filter : PathFilter) :
    filterSections filter (diffText preamble sections) =
      diffText preamble
        (sections.filter fun s => filter.selects (String.ofList (readPath s.path))) := by
  rw [filterSections, diffText, Text.chunks_flatten h.apart, List.flatMap_cons, List.flatMap_map,
    keepSections_append h.plain, if_pos rfl, List.flatten_append, Text.flatten_chunks,
    keepSections_sections]
  rfl

/-- Sections that go make the text shorter. -/
theorem length_diffText_filter_lt {f g : DiffSection → Bool} (hfg : ∀ s, f s = true → g s = true)
    {s : DiffSection} (hs : s ∈ sections) (hg : g s = true) (hf : f s ≠ true) :
    (diffText preamble (sections.filter f)).length <
      (diffText preamble (sections.filter g)).length := by
  have hle : ∀ l : List DiffSection, ((l.filter f).map DiffSection.text).flatten.length ≤
      ((l.filter g).map DiffSection.text).flatten.length := fun l =>
    (((List.monotone_filter_right l hfg).map DiffSection.text).flatten).length_le
  have htext : 0 < s.text.length := by
    simp only [DiffSection.text, headerLine, List.length_append, List.length_cons]
    omega
  obtain ⟨front, back, rfl⟩ := List.append_of_mem hs
  have hfront := hle front
  have hback := hle back
  simp only [diffText, List.filter_append, List.filter_cons, if_pos hg, if_neg hf, List.map_append,
    List.map_cons, List.flatten_cons, List.flatten_append, List.length_append]
  omega

theorem selects_part (p q : List Char) :
    (⟨[], [.part (String.ofList p)], []⟩ : PathFilter).selects (String.ofList q) = true ↔
      p <:+: q := by
  simp [PathFilter.selects, PathFilter.isExcluded, PathMatcher.hits, Text.contains,
    Text.occursIn_iff]

/-- The sections that pass the filter by what is read as their paths stay, in order. That is what
their own paths say, whatever the filter, just when no path has a ` b/` in it. -/
theorem filterSections_diffText (h : IsDiff preamble sections) :
    (∀ filter : PathFilter, filterSections filter (diffText preamble sections) =
      diffText preamble
        (sections.filter fun s => filter.selects (String.ofList (readPath s.path)))) ∧
    ((∀ filter : PathFilter, filterSections filter (diffText preamble sections) =
        diffText preamble (sections.filter fun s => filter.selects (String.ofList s.path))) ↔
      ∀ s ∈ sections, ¬ newMark <:+: s.path) := by
  refine ⟨filterSections_eq h, fun hpaths s hs hmark => ?_, fun hpaths filter => ?_⟩
  · -- the part of a path that is the whole path is not in what is read as it
    have hlength := Text.length_afterLast_lt hmark (List.cons_ne_nil _ _)
    have heq := hpaths ⟨[], [.part (String.ofList s.path)], []⟩
    rw [filterSections_eq h] at heq
    refine absurd (congrArg List.length heq) (Nat.ne_of_lt (length_diffText_filter_lt
      (fun t ht => ?_) hs ((selects_part _ _).2 List.infix_rfl) fun hread => ?_))
    · rw [selects_part] at ht ⊢
      exact ht.trans (Text.afterLast_suffix _ _).isInfix
    · rw [selects_part] at hread
      exact absurd hread.length_le (Nat.not_le.2 hlength)
  · rw [filterSections_eq h]
    have hread : ∀ s ∈ sections, filter.selects (String.ofList (readPath s.path)) =
        filter.selects (String.ofList s.path) := fun s hs => by
      rw [readPath, Text.afterLast_of_not_infix (hpaths s hs)]
    rw [List.filter_congr hread]

/-- A section of a file in a directory `a b`. -/
def spacedSection : DiffSection where
  path := "a b/c".toList
  ending := ['\n']
  body := "+x\n".toList
  path_no_feed := by decide
  path_end := by simp [Text.isBlank]
  ending_eq := .inl rfl
  body_plain := by decide

/-- A section that is just its first line. -/
def bareSection : DiffSection where
  path := "src/lib.rs".toList
  ending := []
  body := []
  path_no_feed := by decide
  path_end := by simp [Text.isBlank]
  ending_eq := .inr (.inr ⟨rfl, rfl⟩)
  body_plain := by decide

theorem filterSections_spaced_bare :
    IsDiff "note\n".toList [spacedSection, bareSection] ∧
    (∀ filter : PathFilter,
      filterSections filter (diffText "note\n".toList [spacedSection, bareSection]) =
        diffText "note\n".toList ([spacedSection, bareSection].filter fun s =>
          filter.selects (String.ofList (readPath s.path)))) ∧
    ¬ ∀ filter : PathFilter,
      filterSections filter (diffText "note\n".toList [spacedSection, bareSection]) =
        diffText "note\n".toList ([spacedSection, bareSection].filter fun s =>
          filter.selects (String.ofList s.path)) := by
  have hdiff : IsDiff "note\n".toList [spacedSection, bareSection] := ⟨by decide, by decide⟩
  obtain ⟨hread, hpaths⟩ := filterSections_diffText hdiff
  exact ⟨hdiff, hread, mt hpaths.1 (by decide)⟩

theorem filterSections_drops_selected :
    ¬ ∀ (preamble : List Char) (sections : List DiffSection), IsDiff preamble sections →
      ∀ filter : PathFilter, filterSections filter (diffText preamble sections) =
        diffText preamble (sections.filter fun s => filter.selects (String.ofList s.path)) :=
  fun h => absurd
    (h [] [spacedSection] ⟨by decide, by decide⟩ (PathFilter.ofLists ["a b/*"] [] [])) (by decide)

end GitDiffSource

end ContextCompiler
