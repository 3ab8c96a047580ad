import ContextCompiler.Proofs.Storage.Path

/-!
The directory of a path, and paths in a directory.

The directory that is split off a path is written as the path is, but without the pieces at its end
that lead nowhere. So the pieces of the path are those of the directory, such idle ones and the
name.
-/

namespace ContextCompiler

namespace Text

theorem splitOn_append_cons (c : Char) (a b : List Char) :
    splitOn c (a ++ c :: b) = splitOn c a ++ splitOn c b := by
  induction a with
  | nil => simp [splitOn]
  | cons d a ih =>
    by_cases hd : d = c
    · simp [splitOn, hd, ih]
    · cases hs : splitOn c a with
      | nil => exact absurd hs (splitOn_ne_nil c a)
      | cons piece rest => simp [splitOn, hd, ih, hs]

theorem split_eq_append {c : Char} {s : String} {a b : List Char} (h : s.toList = a ++ c :: b) :
    split c s = (splitOn c a).map String.ofList ++ (splitOn c b).map String.ofList := by
  rw [split, h, splitOn_append_cons, List.map_append]

theorem joinWith_append {sep : List Char} {front back : List (List Char)} (hfront : front ≠ [])
    (hback : back ≠ []) :
    joinWith sep (front ++ back) = joinWith sep front ++ sep ++ joinWith sep back := by
  induction front with
  | nil => exact absurd rfl hfront
  | cons p rest ih =>
    cases rest with
    | nil =>
      obtain ⟨q, back, rfl⟩ := List.exists_cons_of_ne_nil hback
      rfl
    | cons q rest =>
      have := ih (List.cons_ne_nil q rest)
      simp only [List.cons_append] at this
      simp [joinWith, this]

theorem joinWith_concat {sep name : List Char} {parts : List (List Char)} (h : parts ≠ []) :
    joinWith sep (parts ++ [name]) = joinWith sep parts ++ sep ++ name :=
  joinWith_append h (List.cons_ne_nil name [])

theorem split_of_not_mem {c : Char} {s : String} (h : c ∉ s.toList) : split c s = [s] := by
  rw [split, splitOn_of_not_mem h, List.map_singleton, String.ofList_toList]

theorem not_mem_of_mem_split {c : Char} {s piece : String} (h : piece ∈ split c s) :
    c ∉ piece.toList := by
  obtain ⟨p, hp, rfl⟩ := List.mem_map.1 h
  rw [String.toList_ofList]
  exact not_mem_of_mem_splitOn hp

end Text

namespace Path

variable {dir path name : String} {front : List String}

/-! ## Paths in a directory -/

/-- The pieces that the paths in a directory start with. The directory is given from its end. -/
def piecesBefore : List Char → List (List Char)
  | [] => []
  | '/' :: cs => Text.splitOn '/' cs.reverse
  | cs => Text.splitOn '/' cs.reverse

/-- The pieces that the paths in a directory start with. -/
def directoryPieces (dir : String) : List String :=
  (piecesBefore dir.toList.reverse).map String.ofList

theorem piecesBefore_slash (cs : List Char) :
    piecesBefore ('/' :: cs) = Text.splitOn '/' cs.reverse := rfl

theorem piecesBefore_of_ne {c : Char} {cs : List Char} (h : c ≠ '/') :
    piecesBefore (c :: cs) = Text.splitOn '/' (c :: cs).reverse := by
  unfold piecesBefore
  split <;> simp_all

theorem toList_eq_of_reverse {c : Char} {cs : List Char} (h : dir.toList.reverse = c :: cs) :
    dir.toList = cs.reverse ++ [c] := by
  rw [← List.reverse_reverse dir.toList, h, List.reverse_cons]

theorem split_join (h : isAbsolute path = false) :
    Text.split '/' (join dir path) = directoryPieces dir ++ Text.split '/' path := by
  rw [join, if_neg (by simp [h]), directoryPieces]
  cases hdir : dir.toList.reverse with
  | nil =>
    obtain rfl : dir = "" := String.toList_eq_nil_iff.1 (List.reverse_eq_nil_iff.1 hdir)
    simp [piecesBefore]
  | cons c cs =>
    have htext := toList_eq_of_reverse hdir
    have hne : dir ≠ "" := fun e => by simp [e] at htext
    by_cases hc : c = '/'
    · have hsuffix : Text.hasSuffix "/" dir = true := by
        simp [Text.hasSuffix, htext, hc]
      rw [if_pos (by simp [hsuffix]), hc, piecesBefore_slash]
      exact Text.split_eq_append (by simp [htext, hc])
    · have hsuffix : Text.hasSuffix "/" dir = false := by
        rw [Text.hasSuffix, ← Bool.not_eq_true, List.isSuffixOf_iff_suffix, htext]
        exact fun h => hc (List.singleton_suffix_append_singleton_iff.1 h).symm
      rw [if_neg (by simp [hsuffix, hne]), piecesBefore_of_ne hc, ← hdir, List.reverse_reverse]
      exact Text.split_eq_append (by simp)

/-- Whether a path under a directory starts at the root is up to the directory. -/
theorem isAbsolute_join_eq (h : isAbsolute path = false) :
    isAbsolute (join dir path) = isAbsolute dir := by
  by_cases hdir : dir = ""
  · subst hdir
    rw [join, if_neg (by simp [h]), if_pos (by decide), String.empty_append, h]
    rfl
  · obtain ⟨c, cs, htext⟩ := List.exists_cons_of_ne_nil (mt String.toList_eq_nil_iff.1 hdir)
    rw [join, if_neg (by simp [h])]
    split
    · simp [isAbsolute, htext]
    · simp [isAbsolute, htext]

/-- The names in a path are names, and no slash is in them. -/
theorem isName_of_mem_parts (h : .name name ∈ parts path) :
    Storage.IsName name ∧ '/' ∉ name.toList := by
  have hpiece : ∃ first, ∃ piece ∈ Text.split '/' path,
      partOf? first piece = some (.name name) := by
    unfold parts at h
    split at h
    · exact absurd h List.not_mem_nil
    · next piece rest hsplit =>
      rw [hsplit]
      split at h
      · rcases List.mem_cons.1 h with h | h
        · cases h
        · obtain ⟨n, hn, hpart⟩ := List.mem_filterMap.1 h
          exact ⟨false, n, List.mem_cons_of_mem _ hn, hpart⟩
      · rcases List.mem_append.1 h with h | h
        · exact ⟨true, piece, List.mem_cons_self, Option.mem_toList.1 h⟩
        · obtain ⟨n, hn, hpart⟩ := List.mem_filterMap.1 h
          exact ⟨false, n, List.mem_cons_of_mem _ hn, hpart⟩
  obtain ⟨first, piece, hmem, hpart⟩ := hpiece
  rcases partOf?_cases hpart with ⟨-, h⟩ | h | ⟨h, hname⟩
  · cases h
  · cases h
  · cases h
    exact ⟨hname, Text.not_mem_of_mem_split hmem⟩

/-! ## The directory that is split off -/

theorem splitOn_reverse_eq (cs : List Char) :
    ∃ idle, Text.splitOn '/' cs.reverse = piecesBefore cs ++ idle ∧ ∀ n ∈ idle, n = [] := by
  cases cs with
  | nil => exact ⟨[[]], rfl, by simp⟩
  | cons c cs =>
    by_cases hc : c = '/'
    · refine ⟨[[]], ?_, by simp⟩
      rw [hc, piecesBefore_slash, List.reverse_cons, Text.splitOn_append_cons]
      rfl
    · exact ⟨[], by rw [piecesBefore_of_ne hc, List.append_nil], by simp⟩

/-- The pieces of a directory are those that its paths start with, and an empty one at most. -/
theorem split_eq_directoryPieces (dir : String) :
    ∃ idle, Text.split '/' dir = directoryPieces dir ++ idle ∧ ∀ n ∈ idle, n = "" := by
  obtain ⟨idle, hsplit, hidle⟩ := splitOn_reverse_eq dir.toList.reverse
  rw [List.reverse_reverse] at hsplit
  refine ⟨idle.map String.ofList, by rw [Text.split, hsplit, List.map_append, directoryPieces], ?_⟩
  intro n hn
  obtain ⟨m, hm, rfl⟩ := List.mem_map.1 hn
  rw [hidle m hm]

/-- What is dropped from the end of a directory leads nowhere. -/
theorem piecesBefore_dropIdleEnd (n : Nat) (cs : List Char) :
    ∃ idle, piecesBefore cs = piecesBefore (dropIdleEnd n cs) ++ idle ∧
      ∀ n ∈ idle, n = [] ∨ n = ['.'] := by
  fun_induction dropIdleEnd n cs with
  | case1 => exact ⟨[], by simp, by simp⟩
  | case2 => exact ⟨[], by simp, by simp⟩
  | case3 n cs _ ih =>
    obtain ⟨idle, hcs, hidle⟩ := ih
    obtain ⟨idle', hsplit, hidle'⟩ := splitOn_reverse_eq cs
    refine ⟨idle ++ idle', by rw [piecesBefore_slash, hsplit, hcs, List.append_assoc], ?_⟩
    intro m hm
    rcases List.mem_append.1 hm with hm | hm
    · exact hidle m hm
    · exact .inl (hidle' m hm)
  | case4 => exact ⟨[['.']], rfl, by simp⟩
  | case5 n cs _ ih =>
    obtain ⟨idle, hcs, hidle⟩ := ih
    obtain ⟨idle', hsplit, hidle'⟩ := splitOn_reverse_eq cs
    refine ⟨idle ++ idle' ++ [['.']], ?_, ?_⟩
    · have hpoint : ('.' :: '/' :: cs).reverse = cs.reverse ++ '/' :: ['.'] := by simp
      rw [piecesBefore_of_ne (by decide), hpoint, Text.splitOn_append_cons, hsplit, hcs]
      simp [Text.splitOn]
    · intro m hm
      rcases List.mem_append.1 hm with hm | hm
      · rcases List.mem_append.1 hm with hm | hm
        · exact hidle m hm
        · exact .inl (hidle' m hm)
      · exact .inr (List.mem_singleton.1 hm)
  | case6 => exact ⟨[], by simp, by simp⟩

theorem dropIdleEnd_suffix (n : Nat) (cs : List Char) : dropIdleEnd n cs <:+ cs := by
  fun_induction dropIdleEnd n cs with
  | case1 => exact List.suffix_rfl
  | case2 => exact List.suffix_rfl
  | case3 _ _ _ ih => exact ih.trans (List.suffix_cons _ _)
  | case4 => exact List.suffix_cons _ _
  | case5 _ _ _ ih => exact ih.trans ((List.suffix_cons _ _).trans (List.suffix_cons _ _))
  | case6 => exact List.suffix_rfl

/-- A name at the end of a path is not dropped. -/
theorem dropIdleEnd_of_isName {cs : List Char} (hname : Storage.IsName name)
    (hslash : '/' ∉ name.toList) (n : Nat) :
    dropIdleEnd n (name.toList.reverse ++ cs) = name.toList.reverse ++ cs := by
  obtain ⟨c, t, ht⟩ : ∃ c t, name.toList.reverse = c :: t :=
    List.exists_cons_of_ne_nil (by simpa using hname.1)
  have hmem : ∀ d ∈ c :: t, d ≠ '/' := fun d hd e =>
    hslash (List.mem_reverse.1 (ht ▸ e ▸ hd))
  have hpoint : ∀ s, c :: t ++ cs ≠ '.' :: '/' :: s := fun s h => by
    cases t with
    | nil =>
      rw [(List.cons.inj h).1] at ht
      exact hname.2.1 (String.toList_injective (List.reverse_injective ht))
    | cons d t =>
      have hd := (List.cons.inj (List.cons.inj h).2).1
      exact hmem d (List.mem_cons_of_mem _ List.mem_cons_self) hd
  rw [ht]
  unfold dropIdleEnd
  split
  · rfl
  · next h => exact absurd (List.cons.inj h).1 (hmem c List.mem_cons_self)
  · next h => exact absurd (List.cons.inj h).1 (hmem c List.mem_cons_self)
  · next h => exact absurd h (hpoint _)
  · next h => exact absurd h (hpoint _)
  · rfl

theorem not_isAbsolute_of_not_mem (h : '/' ∉ path.toList) : isAbsolute path = false := by
  rw [← Bool.not_eq_true, isAbsolute_iff]
  rintro ⟨t, ht⟩
  exact h (ht ▸ List.mem_cons_self)

theorem partOf?_of_isName (hname : Storage.IsName name) (first : Bool) :
    partOf? first name = some (.name name) := by
  obtain ⟨h₁, h₂, h₃⟩ := hname
  simp [partOf?, h₁, h₂, h₃]

/-- A path that ends in a name has it as its last part. -/
theorem getLast?_parts (h : Text.split '/' path = front ++ [name]) (hname : Storage.IsName name) :
    (parts path).getLast? = some (.name name) := by
  have hpart := partOf?_of_isName hname
  unfold parts
  rw [h]
  cases front with
  | nil =>
    have hsplit : Text.split '/' path = [name] := h
    have hpath : isAbsolute path = false := by
      rw [← Bool.not_eq_true]
      intro habs
      obtain ⟨pieces, hpieces, -⟩ := split_of_isAbsolute habs
      exact hname.1 (List.cons.inj (hsplit.symm.trans hpieces)).1
    simp [hpath, hpart]
  | cons piece front =>
    simp only [List.cons_append, List.filterMap_append, List.filterMap_cons, hpart,
      List.filterMap_nil]
    split
    · rw [← List.cons_append, List.getLast?_concat]
    · rw [← List.append_assoc, List.getLast?_concat]

/-- The text of a path that ends in a name. -/
theorem exists_reverse_eq (h : Text.split '/' path = front ++ [name]) :
    ∃ cs, path.toList.reverse = name.toList.reverse ++ cs ∧ (cs = [] ∨ cs.head? = some '/') ∧
      (piecesBefore cs).map String.ofList = front := by
  have hpieces : Text.splitOn '/' path.toList = front.map String.toList ++ [name.toList] := by
    have := congrArg (List.map String.toList) h
    simpa [Text.split, List.map_map, Function.comp_def] using this
  have htext := Text.joinWith_splitOn '/' path.toList
  rw [hpieces] at htext
  cases front with
  | nil => exact ⟨[], by simp [← htext, Text.joinWith], .inl rfl, rfl⟩
  | cons piece front =>
    refine ⟨'/' :: (Text.joinWith ['/'] ((piece :: front).map String.toList)).reverse, ?_,
      .inr rfl, ?_⟩
    · rw [← htext, Text.joinWith_concat (by simp)]
      simp
    · have hslash : ∀ p ∈ (piece :: front).map String.toList, '/' ∉ p := by
        intro p hp
        obtain ⟨n, hn, rfl⟩ := List.mem_map.1 hp
        exact Text.not_mem_of_mem_split (h ▸ List.mem_append_left _ hn)
      rw [piecesBefore_slash, List.reverse_reverse, Text.splitOn_joinWith (by simp) hslash,
        List.map_map]
      exact List.map_id'' (fun n => String.ofList_toList) _

/-- A path that ends in a name has a directory, and idle pieces at most stand in between. -/
theorem parent?_eq_some (h : Text.split '/' path = front ++ [name])
    (hname : Storage.IsName name) :
    ∃ dir idle, parent? path = some dir ∧ front = directoryPieces dir ++ idle ∧
      (∀ n ∈ idle, n = "" ∨ n = ".") ∧ isAbsolute dir = isAbsolute path := by
  have hslash : '/' ∉ name.toList :=
    Text.not_mem_of_mem_split (h ▸ List.mem_append_right _ List.mem_cons_self)
  obtain ⟨cs, htext, hhead, hfront⟩ := exists_reverse_eq h
  have hdrop : (name.toList.reverse ++ cs).dropWhile (· != '/') = cs := by
    rw [List.dropWhile_append_of_pos fun d hd =>
      bne_iff_ne.2 fun e : d = '/' => hslash (List.mem_reverse.1 (e ▸ hd))]
    rcases hhead with rfl | hhead
    · rfl
    · obtain ⟨t, rfl⟩ := List.head?_eq_some_iff.1 hhead
      rfl
  have hparent : parent? path =
      some (String.ofList (dropIdleEnd (cs.length + 1) cs).reverse) := by
    unfold parent?
    rw [getLast?_parts h hname]
    simp only [htext, dropIdleEnd_of_isName hname hslash, hdrop]
  obtain ⟨idle, hcs, hidle⟩ := piecesBefore_dropIdleEnd (cs.length + 1) cs
  refine ⟨_, idle.map String.ofList, hparent, ?_, ?_, ?_⟩
  · rw [← hfront, hcs, List.map_append, directoryPieces, String.toList_ofList,
      List.reverse_reverse]
  · intro n hn
    obtain ⟨m, hm, rfl⟩ := List.mem_map.1 hn
    rcases hidle m hm with rfl | rfl
    · exact .inl rfl
    · exact .inr rfl
  · rw [Bool.eq_iff_iff]
    refine ⟨fun habs => ?_, fun habs => isAbsolute_parent? habs hparent⟩
    -- the directory is the beginning of the path
    obtain ⟨t, ht⟩ := isAbsolute_iff.1 habs
    obtain ⟨rest, hrest⟩ := (dropIdleEnd_suffix (cs.length + 1) cs).trans
      (List.suffix_append name.toList.reverse cs)
    rw [String.toList_ofList] at ht
    have hpath : path.toList = '/' :: t ++ rest.reverse := by
      rw [← List.reverse_reverse path.toList, htext, ← hrest, List.reverse_append, ht]
    exact isAbsolute_iff.2 ⟨_, hpath⟩

/-! ## The parts of a path in a directory -/

/-- The parts that pieces stand for, at the root or not. -/
def partsOf (absolute : Bool) : List String → List Part
  | [] => []
  | piece :: rest =>
    if absolute then .root :: rest.filterMap (partOf? false)
    else (partOf? true piece).toList ++ rest.filterMap (partOf? false)

theorem parts_eq (path : String) :
    parts path = partsOf (isAbsolute path) (Text.split '/' path) := by
  cases h : Text.split '/' path with
  | nil => rw [parts, h, partsOf]
  | cons piece rest => rw [parts, h, partsOf]

theorem partsOf_append {absolute : Bool} {back : List String} (h : front ≠ []) :
    partsOf absolute (front ++ back) =
      partsOf absolute front ++ back.filterMap (partOf? false) := by
  obtain ⟨piece, rest, rfl⟩ := List.exists_cons_of_ne_nil h
  rw [List.cons_append, partsOf, partsOf, List.filterMap_append]
  split
  · rw [List.cons_append]
  · rw [List.append_assoc]

theorem eq_empty_of_directoryPieces (h : directoryPieces dir = []) : dir = "" := by
  rw [directoryPieces, List.map_eq_nil_iff] at h
  cases hdir : dir.toList.reverse with
  | nil => exact String.toList_eq_nil_iff.1 (List.reverse_eq_nil_iff.1 hdir)
  | cons c cs =>
    rw [hdir] at h
    by_cases hc : c = '/'
    · rw [hc, piecesBefore_slash] at h
      exact absurd h (Text.splitOn_ne_nil _ _)
    · rw [piecesBefore_of_ne hc] at h
      exact absurd h (Text.splitOn_ne_nil _ _)

/-- The parts of a directory come from the pieces that its paths start with. -/
theorem parts_eq_directoryPieces (h : directoryPieces dir ≠ []) :
    parts dir = partsOf (isAbsolute dir) (directoryPieces dir) := by
  obtain ⟨idle, hsplit, hidle⟩ := split_eq_directoryPieces dir
  have hnone : idle.filterMap (partOf? false) = [] :=
    List.filterMap_eq_nil_iff.2 fun n hn => by rw [hidle n hn]; rfl
  rw [parts_eq, hsplit, partsOf_append h, hnone, List.append_nil]

/-- Names under a directory are the parts behind those of the directory. -/
theorem parts_of_split {names : List String} (habs : isAbsolute path = isAbsolute dir)
    (hsplit : Text.split '/' path = directoryPieces dir ++ names)
    (hnames : ∀ n ∈ names, Storage.IsName n) : parts path = parts dir ++ names.map .name := by
  have hparts : names.filterMap (partOf? false) = names.map .name := by
    rw [← List.filterMap_eq_map]
    exact List.filterMap_congr fun n hn => partOf?_of_isName (hnames n hn) false
  rw [parts_eq, parts_eq, habs, hsplit]
  by_cases hdir : directoryPieces dir = []
  · obtain rfl := eq_empty_of_directoryPieces hdir
    rw [hdir, List.nil_append]
    cases names with
    | nil => rfl
    | cons n rest =>
      rw [List.filterMap_cons, partOf?_of_isName (hnames n List.mem_cons_self)] at hparts
      have hfirst := partOf?_of_isName (hnames n List.mem_cons_self) true
      rw [partsOf, if_neg (by decide), hfirst]
      exact hparts
  · rw [← parts_eq dir, parts_eq_directoryPieces hdir, partsOf_append hdir, hparts]

end Path

end ContextCompiler
