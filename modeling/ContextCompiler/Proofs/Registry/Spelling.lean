import ContextCompiler.Proofs.Output.Write
import ContextCompiler.Proofs.Registry.Documents
import ContextCompiler.Proofs.Text.Trim

/-!
Spellings of output paths.

The writer goes by the names of an output path: pieces between slashes that are neither empty nor a
point. A list of output paths is compared by text, without `./` in front and slashes around. Of two
paths with the same names both see the same where they are written plainly, with one slash between
names; a piece that does not count inside the one but not the other is seen by the list only.
-/

namespace ContextCompiler

namespace OutputPath

variable {path other root target : String} {s a b : List Char} {pieces : List (List Char)}

/-! ## Names -/

/-- Whether a piece of a path counts as a name. -/
def counts (piece : List Char) : Bool := piece != [] && piece != ['.']

/-- The pieces of a text that count. -/
def countingPieces (s : List Char) : List (List Char) := (Text.splitOn '/' s).filter counts

/-- The names along an output path. -/
def names (path : String) : List String :=
  (countingPieces (Text.trim path).toList).map String.ofList

/-- Names written with one slash between them, with `./` in front and slashes around at most. -/
def IsPlain (path : String) : Prop :=
  ∃ points slashes after : Nat, ∃ pieces : List (List Char), pieces ≠ [] ∧
    (∀ piece ∈ pieces, counts piece = true ∧ '/' ∉ piece) ∧
    (Text.trim path).toList = (List.replicate points ['.', '/']).flatten ++
      (List.replicate slashes '/' ++ Text.joinWith ['/'] pieces ++ List.replicate after '/')

theorem countingPieces_append (a b : List Char) :
    countingPieces (a ++ '/' :: b) = countingPieces a ++ countingPieces b := by
  rw [countingPieces, Text.splitOn_append_cons, List.filter_append, countingPieces, countingPieces]

@[simp] theorem countingPieces_slash (s : List Char) :
    countingPieces ('/' :: s) = countingPieces s :=
  countingPieces_append [] s

theorem countingPieces_slashes_append (h : ∀ c ∈ a, (c == '/') = true) :
    countingPieces (a ++ s) = countingPieces s := by
  induction a with
  | nil => rfl
  | cons c a ih =>
    rw [beq_iff_eq.1 (h c List.mem_cons_self), List.cons_append, countingPieces_slash]
    exact ih fun d hd => h d (List.mem_cons_of_mem _ hd)

theorem countingPieces_append_slashes (h : ∀ c ∈ b, (c == '/') = true) :
    countingPieces (s ++ b) = countingPieces s := by
  cases b with
  | nil => rw [List.append_nil]
  | cons c b =>
    rw [beq_iff_eq.1 (h c List.mem_cons_self), countingPieces_append, ← List.append_nil b,
      countingPieces_slashes_append fun d hd => h d (List.mem_cons_of_mem _ hd)]
    exact List.append_nil _

theorem countingPieces_dropHere (s : List Char) :
    countingPieces (Path.dropHere s) = countingPieces s := by
  fun_induction Path.dropHere s with
  | case1 s ih => exact ih.trans (countingPieces_append ['.'] s).symm
  | case2 => rfl

theorem countingPieces_joinWith (hne : pieces ≠ [])
    (h : ∀ piece ∈ pieces, counts piece = true ∧ '/' ∉ piece) :
    countingPieces (Text.joinWith ['/'] pieces) = pieces := by
  rw [countingPieces, Text.splitOn_joinWith hne fun piece hp => (h piece hp).2,
    List.filter_eq_self]
  exact fun piece hp => (h piece hp).1

theorem mem_countingPieces {piece : List Char} (h : piece ∈ countingPieces s) :
    counts piece = true ∧ '/' ∉ piece :=
  ⟨(List.mem_filter.1 h).2, Text.not_mem_of_mem_splitOn (List.mem_filter.1 h).1⟩

/-- The text that a list compares has the names of the path. -/
theorem countingPieces_normalizeOutputPath (path : String) :
    countingPieces (normalizeOutputPath path).toList =
      countingPieces (Text.trim path).toList := by
  rw [normalizeOutputPath, String.toList_ofList, Text.trim, String.toList_ofList,
    ← countingPieces_dropHere (Text.trimWhile Text.isBlank path.toList)]
  generalize Path.dropHere (Text.trimWhile Text.isBlank path.toList) = t
  obtain ⟨front, back, ht, hfront, hback⟩ := Text.exists_append_trimWhile (· == '/') t
  conv_rhs => rw [ht]
  rw [countingPieces_append_slashes hback, countingPieces_slashes_append hfront]

/-! ## Plain paths -/

theorem dropHere_points (n : Nat) (s : List Char) :
    Path.dropHere ((List.replicate n ['.', '/']).flatten ++ s) = Path.dropHere s := by
  induction n with
  | zero => rfl
  | succ n ih =>
    rw [List.replicate_succ, List.flatten_cons, List.append_assoc]
    exact ih

theorem exists_points_append_dropHere (s : List Char) :
    ∃ n, s = (List.replicate n ['.', '/']).flatten ++ Path.dropHere s := by
  fun_induction Path.dropHere s with
  | case1 s ih =>
    obtain ⟨n, h⟩ := ih
    exact ⟨n + 1, by rw [List.replicate_succ, List.flatten_cons, List.append_assoc, ← h]; rfl⟩
  | case2 s => exact ⟨0, rfl⟩

theorem ne_slash_of_counts {piece : List Char} (h : '/' ∉ piece) {c : Char} (hc : c ∈ piece) :
    (c == '/') = false :=
  beq_eq_false_iff_ne.2 fun e => h (e ▸ hc)

/-- Names joined by slashes start and end with characters of names. -/
theorem ends_joinWith (hne : pieces ≠ [])
    (h : ∀ piece ∈ pieces, counts piece = true ∧ '/' ∉ piece) :
    (∀ c ∈ (Text.joinWith ['/'] pieces).head?, (c == '/') = false) ∧
      ∀ c ∈ (Text.joinWith ['/'] pieces).getLast?, (c == '/') = false := by
  have hfull : ∀ piece ∈ pieces, piece ≠ [] := fun piece hp e => by
    have hcounts := (h piece hp).1
    rw [e] at hcounts
    cases hcounts
  constructor
  · obtain ⟨piece, rest, rfl⟩ := List.exists_cons_of_ne_nil hne
    have hp := List.mem_cons_self (a := piece) (l := rest)
    obtain ⟨c, cs, rfl⟩ := List.exists_cons_of_ne_nil (hfull piece hp)
    have hhead : (Text.joinWith ['/'] ((c :: cs) :: rest)).head? = some c := by
      cases rest <;> rfl
    rw [hhead]
    rintro _ ⟨⟩
    exact ne_slash_of_counts (h _ hp).2 List.mem_cons_self
  · obtain ⟨front, piece, rfl⟩ : ∃ front piece, pieces = front ++ [piece] :=
      ⟨_, _, (List.dropLast_append_getLast hne).symm⟩
    have hp : piece ∈ front ++ [piece] := by simp
    have hlast : (Text.joinWith ['/'] (front ++ [piece])).getLast? = piece.getLast? := by
      by_cases hfront : front = []
      · rw [hfront]
        rfl
      · rw [Text.joinWith_concat hfront, List.getLast?_append_of_ne_nil _ (hfull piece hp)]
    rw [hlast]
    exact fun c hc => ne_slash_of_counts (h _ hp).2 (List.mem_of_getLast? hc)

/-- Names joined by slashes do not start with `./`. -/
theorem dropHere_joinWith (hne : pieces ≠ [])
    (h : ∀ piece ∈ pieces, counts piece = true ∧ '/' ∉ piece) (s : List Char) :
    Path.dropHere (Text.joinWith ['/'] pieces ++ s) = Text.joinWith ['/'] pieces ++ s := by
  obtain ⟨piece, rest, rfl⟩ := List.exists_cons_of_ne_nil hne
  obtain ⟨hcounts, hslash⟩ := h piece List.mem_cons_self
  obtain ⟨more, hmore⟩ : ∃ more, Text.joinWith ['/'] (piece :: rest) ++ s = piece ++ more := by
    cases rest with
    | nil => exact ⟨s, rfl⟩
    | cons q rest => exact ⟨['/'] ++ Text.joinWith ['/'] (q :: rest) ++ s, by simp [Text.joinWith]⟩
  rw [hmore]
  generalize htext : piece ++ more = text
  fun_cases Path.dropHere text with
  | case2 => rfl
  | case1 t =>
    -- the point and the slash would be in the first name, or the point would be it
    rcases piece with - | ⟨c, - | ⟨d, piece⟩⟩
    · cases hcounts
    · rw [(List.cons.inj htext).1] at hcounts
      cases hcounts
    · rw [(List.cons.inj (List.cons.inj htext).2).1] at hslash
      exact absurd (by simp) hslash

/-- A path is plain when the text that a list compares is its names with slashes in between. -/
theorem isPlain_iff : IsPlain path ↔ names path ≠ [] ∧
    normalizeOutputPath path = Text.join "/" (names path) := by
  have hjoin : ∀ pieces : List (List Char), Text.join "/" (pieces.map String.ofList) =
      String.ofList (Text.joinWith ['/'] pieces) := fun pieces => by
    rw [Text.join, List.map_map]
    exact congrArg (String.ofList <| Text.joinWith _ ·)
      (List.map_id'' (fun piece => String.toList_ofList) pieces)
  rw [names, ne_eq, List.map_eq_nil_iff, hjoin]
  constructor
  · rintro ⟨points, slashes, after, pieces, hne, hpieces, htext⟩
    obtain ⟨hhead, hlast⟩ := ends_joinWith hne hpieces
    have hslash : ∀ n, ∀ c ∈ List.replicate n '/', (c == '/') = true := fun n c hc => by
      rw [List.eq_of_mem_replicate hc]
      rfl
    have hdrop : Path.dropHere (Text.trim path).toList =
        List.replicate slashes '/' ++ Text.joinWith ['/'] pieces ++ List.replicate after '/' := by
      rw [htext, dropHere_points]
      cases slashes with
      | zero => exact dropHere_joinWith hne hpieces _
      | succ n => rfl
    have hnormal : (normalizeOutputPath path).toList = Text.joinWith ['/'] pieces := by
      rw [Text.trim, String.toList_ofList] at hdrop
      rw [normalizeOutputPath, String.toList_ofList, hdrop,
        Text.trimWhile_between (hslash _) (hslash _) hhead hlast]
    have hnames : countingPieces (Text.trim path).toList = pieces := by
      rw [← countingPieces_normalizeOutputPath, hnormal, countingPieces_joinWith hne hpieces]
    rw [hnames]
    exact ⟨hne, String.toList_injective (by rw [hnormal, String.toList_ofList])⟩
  · rintro ⟨hne, hnormal⟩
    have htext := congrArg String.toList hnormal
    rw [normalizeOutputPath, String.toList_ofList, String.toList_ofList,
      ← String.toList_ofList (l := Text.trimWhile Text.isBlank path.toList), ← Text.trim] at htext
    obtain ⟨points, hpoints⟩ := exists_points_append_dropHere (Text.trim path).toList
    obtain ⟨front, back, ht, hfront, hback⟩ :=
      Text.exists_append_trimWhile (· == '/') (Path.dropHere (Text.trim path).toList)
    have hreplicate : ∀ cs : List Char, (∀ c ∈ cs, (c == '/') = true) →
        cs = List.replicate cs.length '/' := fun cs hcs =>
      List.eq_replicate_of_mem fun c hc => beq_iff_eq.1 (hcs c hc)
    refine ⟨points, front.length, back.length, _, hne, fun piece hp => mem_countingPieces hp, ?_⟩
    rw [← hreplicate front hfront, ← hreplicate back hback, ← htext, ← ht]
    exact hpoints

/-! ## The names that the writer takes -/

theorem counts_iff {piece : List Char} :
    counts piece = true ↔ String.ofList piece ≠ "" ∧ String.ofList piece ≠ "." := by
  have heq : ∀ text : String, String.ofList piece = text ↔ piece = text.toList := fun text =>
    ⟨fun h => by rw [← h, String.toList_ofList], fun h => by rw [h, String.ofList_toList]⟩
  rw [counts, Bool.and_eq_true, bne_iff_ne, bne_iff_ne, ne_eq, ne_eq, ne_eq, ne_eq, heq, heq]
  rfl

/-- The writer takes a piece that counts as the next name, and no other. -/
theorem partNames_partOf? {first : Bool} {piece : List Char} {rest : List Path.Part}
    {found : List String}
    (h : Output.partNames path
      ((Path.partOf? first (String.ofList piece)).toList ++ rest) = .ok found) :
    ∃ found', Output.partNames path rest = .ok found' ∧
      found = ([piece].filter counts).map String.ofList ++ found' := by
  unfold Path.partOf? at h
  by_cases hcounts : counts piece = true
  · obtain ⟨hempty, hhere⟩ := counts_iff.1 hcounts
    rw [if_neg (by simpa using hempty), if_neg (by simpa using hhere)] at h
    rw [List.filter_singleton, hcounts]
    split at h
    · cases h
    · obtain ⟨found', hrest, h⟩ := except_bind_eq_ok.1 h
      exact ⟨found', hrest, (Except.ok.inj h).symm⟩
  · refine ⟨found, ?_, by rw [List.filter_singleton, Bool.not_eq_true _ |>.mp hcounts]; rfl⟩
    rw [counts_iff, not_and_not_right] at hcounts
    by_cases hempty : String.ofList piece = ""
    · rw [if_pos (by simpa using hempty)] at h
      exact h
    · rw [if_neg (by simpa using hempty), if_pos (by simpa using hcounts hempty)] at h
      cases first <;> exact h

theorem partNames_filterMap {pieces : List (List Char)} {found : List String}
    (h : Output.partNames path
      ((pieces.map String.ofList).filterMap (Path.partOf? false)) = .ok found) :
    found = (pieces.filter counts).map String.ofList := by
  induction pieces generalizing found with
  | nil =>
    cases h
    rfl
  | cons piece pieces ih =>
    rw [List.map_cons, List.filterMap_eq_flatMap_toList, List.flatMap_cons,
      ← List.filterMap_eq_flatMap_toList] at h
    obtain ⟨found', hrest, rfl⟩ := partNames_partOf? h
    rw [ih hrest, ← List.map_append, ← List.filter_append, List.singleton_append]

/-- The writer goes by the names of an output path. -/
theorem isTarget_names (h : Output.resolve root path = .ok target) :
    Output.IsTarget root (names path) target := by
  obtain ⟨found, hfound, htarget⟩ := Output.partNames_of_resolve h
  suffices found = names path from this ▸ htarget
  obtain ⟨piece, pieces, hpieces⟩ :=
    List.exists_cons_of_ne_nil (Text.splitOn_ne_nil '/' (Text.trim path).toList)
  have hsplit : Text.split '/' (Text.trim path) =
      String.ofList piece :: pieces.map String.ofList := by
    rw [Text.split, hpieces, List.map_cons]
  simp only [Path.parts, hsplit] at hfound
  split at hfound
  · cases hfound
  · obtain ⟨found', hrest, rfl⟩ := partNames_partOf? hfound
    rw [partNames_filterMap hrest, names, countingPieces, hpieces, ← List.map_append,
      ← List.filter_append, List.singleton_append]

/-- Output paths that are put at one place have the same names. -/
theorem names_eq_of_resolve (h : Output.resolve root path = .ok target)
    (hother : Output.resolve root other = .ok target) : names path = names other :=
  List.append_cancel_left
    ((isTarget_names h).split.2.symm.trans (isTarget_names hother).split.2)

/-- Plain paths of one place are the same text to a list. -/
theorem normalizeOutputPath_eq_iff (hpath : IsPlain path) :
    normalizeOutputPath other = normalizeOutputPath path ↔
      IsPlain other ∧ names other = names path := by
  obtain ⟨hne, htext⟩ := isPlain_iff.1 hpath
  constructor
  · intro h
    have hnames : names other = names path := by
      rw [names, names, ← countingPieces_normalizeOutputPath, h,
        countingPieces_normalizeOutputPath]
    refine ⟨isPlain_iff.2 ?_, hnames⟩
    rw [hnames]
    exact ⟨hne, h.trans htext⟩
  · rintro ⟨hother, hnames⟩
    rw [(isPlain_iff.1 hother).2, hnames, htext]

end OutputPath

namespace Registry

open OutputPath

variable {r : Registry} {d : PlacedDocument} {directive : ImportDirective} {docs : List String}
  {a root target : String}

theorem mem_select_documents (hd : d ∈ r.documents) (hdocs : directive.docs = some docs) :
    d.moved directive.pathPrefix ∈ (r.select directive).documents ↔
      ∃ b ∈ docs, normalizeOutputPath b =
        normalizeOutputPath (d.moved directive.pathPrefix).document.outputPath := by
  rw [select, List.mem_filter, and_iff_right (List.mem_map_of_mem hd), PlacedDocument.isListed_iff,
    ImportDirective.Admits, hdocs]
  exact ⟨fun h => h docs rfl, fun h _ hsome => Option.some.inj hsome ▸ h⟩

/-- Of a document and an entry of the list that the writer puts at one place, the list admits the
document when both are written plainly. A list of plain entries admits it only if its path is plain,
and a plain path is admitted only by a plain entry of its names. -/
theorem mem_select_of_same_target (hd : d ∈ r.documents) (hdocs : directive.docs = some docs)
    (ha : a ∈ docs) (hentry : Output.resolve root a = .ok target)
    (htarget : Output.resolve root (d.moved directive.pathPrefix).document.outputPath =
      .ok target) :
    (IsPlain a → IsPlain (d.moved directive.pathPrefix).document.outputPath →
      d.moved directive.pathPrefix ∈ (r.select directive).documents) ∧
    ((∀ b ∈ docs, IsPlain b) →
      (d.moved directive.pathPrefix ∈ (r.select directive).documents ↔
        IsPlain (d.moved directive.pathPrefix).document.outputPath)) ∧
    (IsPlain (d.moved directive.pathPrefix).document.outputPath →
      (d.moved directive.pathPrefix ∈ (r.select directive).documents ↔
        ∃ b ∈ docs, IsPlain b ∧
          names b = names (d.moved directive.pathPrefix).document.outputPath)) := by
  rw [mem_select_documents hd hdocs]
  generalize (d.moved directive.pathPrefix).document.outputPath = path at htarget ⊢
  have hnames := names_eq_of_resolve hentry htarget
  have hplain : IsPlain a → IsPlain path →
      ∃ b ∈ docs, normalizeOutputPath b = normalizeOutputPath path := fun hplain hpath =>
    ⟨a, ha, (normalizeOutputPath_eq_iff hpath).2 ⟨hplain, hnames⟩⟩
  refine ⟨hplain, fun hall => ⟨?_, hplain (hall a ha)⟩, fun hpath => ?_⟩
  · rintro ⟨b, hb, h⟩
    exact ((normalizeOutputPath_eq_iff (hall b hb)).1 h.symm).1
  · simp only [normalizeOutputPath_eq_iff hpath]



/-- A document of one output path. -/
def placedAt (path : String) : PlacedDocument := ⟨⟨"c", 0⟩, "/", ⟨"", path, true, [], [], []⟩⟩

/-- A directive that lists one output path. -/
def askingFor (pathPrefix : Option String) (entry : String) : ImportDirective :=
  ⟨.file "c.json", pathPrefix, some [entry], .all, .empty⟩

theorem select_keeps_under_prefix :
    (placedAt "./b.md").moved (some "a/") ∈
      (Registry.select ⟨.empty, [placedAt "./b.md"], [], [], []⟩
        (askingFor (some "a/") " ./a/b.md")).documents := by
  have hkept := @mem_select_of_same_target ⟨.empty, [placedAt "./b.md"], [], [], []⟩
    (placedAt "./b.md") (askingFor (some "a/") " ./a/b.md") [" ./a/b.md"] " ./a/b.md" "/out"
    "/out/a/b.md" List.mem_cons_self rfl List.mem_cons_self (by decide) (by decide)
  exact hkept.1 ⟨1, 0, 0, ["a".toList, "b.md".toList], by decide, by decide, by decide⟩
    ⟨0, 0, 0, ["a".toList, "b.md".toList], by decide, by decide, by decide⟩

/-- Two slashes hide a document from an entry that is put at the same place. -/
theorem select_misses_document :
    ¬ ∀ (r : Registry) (directive : ImportDirective) (docs : List String) (d : PlacedDocument)
      (a root target : String), d ∈ r.documents → directive.docs = some docs → a ∈ docs →
      Output.resolve root a = .ok target →
      Output.resolve root (d.moved directive.pathPrefix).document.outputPath = .ok target →
      d.moved directive.pathPrefix ∈ (r.select directive).documents := fun hagree => by
  have hkept := hagree ⟨.empty, [placedAt "a//b.md"], [], [], []⟩ (askingFor none "a/b.md")
    ["a/b.md"] (placedAt "a//b.md") "a/b.md" "/out" "/out/a/b.md" List.mem_cons_self rfl
    List.mem_cons_self (by decide) (by decide)
  have hlisted := List.of_mem_filter hkept
  revert hlisted
  decide

end Registry
end ContextCompiler
