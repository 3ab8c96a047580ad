import Mathlib
import ContextCompiler.Imports.Place
import ContextCompiler.Proofs.Except
import ContextCompiler.Proofs.Glob.Language
import ContextCompiler.Proofs.Glob.PathFilter
import ContextCompiler.Proofs.Storage.Depth

/-!
The files of an import pattern.

The walk for a pattern looks no deeper than the pattern has parts, unless one of them stands for any
number of levels. Without such a part a path of the form has as many slashes as the form, so no file
that fits is too far down.
-/

namespace ContextCompiler

/-! ## Counting slashes -/

namespace Text

variable {c : Char} {names : List String}

theorem join_split (s : String) : join "/" (split '/' s) = s := by
  refine String.toList_injective ?_
  have hpieces : (split '/' s).map String.toList = splitOn '/' s.toList := by
    rw [split, List.map_map]
    exact (List.map_congr_left fun _ _ => String.toList_ofList).trans (List.map_id _)
  rw [join, String.toList_ofList, hpieces]
  exact joinWith_splitOn '/' s.toList

theorem count_joinWith {parts : List (List Char)} (h : parts ≠ []) :
    (joinWith [c] parts).count c + 1 = parts.length + parts.flatten.count c := by
  induction parts with
  | nil => exact absurd rfl h
  | cons p rest ih =>
    cases rest with
    | nil => simp [joinWith, Nat.add_comm]
    | cons q rest =>
      have ih := ih (List.cons_ne_nil q rest)
      rw [List.length_cons, List.flatten_cons, List.count_append]
      simp only [joinWith, List.count_append, List.count_singleton_self]
      omega

theorem count_join (h : names ≠ []) : (join "/" names).toList.count '/' + 1 =
    names.length + (names.map String.toList).flatten.count '/' := by
  rw [join, String.toList_ofList]
  refine (count_joinWith (mt List.map_eq_nil_iff.1 h)).trans ?_
  rw [List.length_map]

theorem length_le_count_join (names : List String) :
    names.length ≤ (join "/" names).toList.count '/' + 1 := by
  by_cases h : names = []
  · rw [h]
    exact Nat.zero_le _
  · rw [count_join h]
    exact Nat.le_add_right _ _

/-- Names without slashes have one slash less than there are names. -/
theorem count_join_of_not_mem (hne : names ≠ []) (h : ∀ n ∈ names, '/' ∉ n.toList) :
    (join "/" names).toList.count '/' + 1 = names.length := by
  have hzero : (names.map String.toList).flatten.count '/' = 0 := by
    refine List.count_eq_zero.2 fun hmem => ?_
    obtain ⟨_, htext, hslash⟩ := List.mem_flatten.1 hmem
    obtain ⟨name, hname, rfl⟩ := List.mem_map.1 htext
    exact h name hname hslash
  rw [count_join hne, hzero, Nat.add_zero]

end Text

/-! ## The order of names -/

namespace Place

variable {a b c : List String}

theorem comesFirst_append (r a b : List String) :
    comesFirst (r ++ a) (r ++ b) = comesFirst a b := by
  induction r with
  | nil => rfl
  | cons n r ih =>
    rw [List.cons_append, List.cons_append, comesFirst, beq_self_eq_true, if_pos rfl, ih]

/-- The first names decide, and where they are the same the others do. -/
theorem comesFirst_cons {x y : String} :
    comesFirst (x :: a) (y :: b) = true ↔ x < y ∨ x = y ∧ comesFirst a b = true := by
  rw [comesFirst]
  by_cases h : x = y
  · subst h
    simp
  · simp [h]

theorem comesFirst_total (a b : List String) : comesFirst a b = true ∨ comesFirst b a = true := by
  induction a generalizing b with
  | nil => exact .inl rfl
  | cons x a ih =>
    cases b with
    | nil => exact .inr rfl
    | cons y b =>
      rw [comesFirst_cons, comesFirst_cons]
      rcases Std.lt_trichotomy x y with h | rfl | h
      · exact .inl (.inl h)
      · exact (ih b).imp (fun h => .inr ⟨rfl, h⟩) fun h => .inr ⟨rfl, h⟩
      · exact .inr (.inl h)

theorem comesFirst_trans (hab : comesFirst a b = true) (hbc : comesFirst b c = true) :
    comesFirst a c = true := by
  induction a generalizing b c with
  | nil => rfl
  | cons x a ih =>
    cases b with
    | nil => cases hab
    | cons y b =>
      cases c with
      | nil => cases hbc
      | cons z c =>
        rw [comesFirst_cons] at hab hbc ⊢
        rcases hab with hxy | ⟨rfl, hab⟩
        · rcases hbc with hyz | ⟨rfl, -⟩
          · exact .inl (String.lt_trans hxy hyz)
          · exact .inl hxy
        · exact hbc.imp_right fun ⟨heq, hbc⟩ => ⟨heq, ih hab hbc⟩

end Place

namespace ImportWorld

variable {s : Storage} {baseDir pattern root form : String} {depth : Option Nat} {f : WalkedFile}

/-! ## What a pattern asks for -/

/-- The pieces of a pattern before the first that has a wildcard. -/
def literalPieces (pattern : String) : List String :=
  (Text.split '/' pattern).takeWhile (!Glob.hasWildcard ·)

/-- The pieces of a pattern from the first that has a wildcard on. -/
def wildPieces (pattern : String) : List String :=
  (Text.split '/' pattern).dropWhile (!Glob.hasWildcard ·)

/-- The form of the paths from the directory that a pattern starts with. -/
def patternForm (pattern : String) : String := Text.join "/" (wildPieces pattern)

/-- The directory that a pattern starts with. -/
def patternRoot (baseDir pattern : String) : String :=
  if (literalPieces pattern).isEmpty then baseDir
  else Path.join baseDir (Text.join "/" (literalPieces pattern))

/-- The files of a walk whose paths have a form, in order. -/
def listing (s : Storage) (root form : String) (depth : Option Nat) : List WalkedFile :=
  ((s.walk (fun _ => true) depth root).filter fun f =>
    (Glob.ofString form).isMatch (Text.join "/" f.names)).mergeSort fun a b =>
      Place.comesFirst a.names b.names

/-- The levels that the walk for a pattern goes down. -/
def levels (pattern : String) : Option Nat :=
  if Text.contains "**" (patternForm pattern) then none else some (wildPieces pattern).length

/-- The files are those below a directory whose paths from there have a form, each of them once and
in order. -/
structure IsListing (s : Storage) (root form : String) (found : List WalkedFile) : Prop where
  nodup : (found.map WalkedFile.place).Nodup
  sorted : (found.map WalkedFile.place).Pairwise (Place.comesFirst · · = true)
  mem_iff : ∀ f, f ∈ found ↔ ∃ r, s.locate root = .ok r ∧ s.get? r = some .directory ∧
    s.FileBelow r f.names f.bytes ∧ f.place = r ++ f.names ∧
    (Glob.ofString form).isMatch (Text.join "/" f.names) = true

theorem split_eq_append_wildPieces (pattern : String) :
    Text.split '/' pattern = literalPieces pattern ++ wildPieces pattern :=
  List.takeWhile_append_dropWhile.symm

theorem wildPieces_ne_nil (h : Glob.hasWildcard pattern = true) : wildPieces pattern ≠ [] := by
  obtain ⟨c, hc, hwild⟩ := List.any_eq_true.1 h
  rw [← Text.joinWith_splitOn '/' pattern.toList] at hc
  intro hnil
  rcases Text.mem_joinWith hc with hslash | ⟨piece, hpiece, hc⟩
  · rw [List.mem_singleton.1 hslash] at hwild
    cases hwild
  · -- the walk over the pieces stops at the one with the wildcard
    have hin : Glob.hasWildcard (String.ofList piece) = true :=
      List.any_eq_true.2 ⟨c, by rwa [String.toList_ofList], hwild⟩
    have hplain := List.dropWhile_eq_nil_iff.1 hnil _ (List.mem_map_of_mem hpiece)
    rw [hin] at hplain
    cases hplain

/-- The pieces that a pattern starts with, unless it is absolute, make up a path that is not
empty. -/
theorem join_literalPieces_eq (hwild : Glob.hasWildcard pattern = true)
    (habs : Path.isAbsolute pattern = false) :
    Text.join "/" (literalPieces pattern) = "" ↔ literalPieces pattern = [] := by
  refine ⟨fun hjoin => ?_, fun h => by rw [h]; rfl⟩
  by_contra hne
  have htext : pattern = Text.join "/" (literalPieces pattern) ++ "/" ++ patternForm pattern := by
    rw [patternForm, ← Text.join_append hne (wildPieces_ne_nil hwild),
      ← split_eq_append_wildPieces, Text.join_split]
  have hslash : Path.isAbsolute pattern = true := by
    rw [htext, hjoin]
    exact Path.isAbsolute_append (by decide)
  rw [habs] at hslash
  cases hslash

theorem filesOfPattern_eq_listing (hwild : Glob.hasWildcard pattern = true)
    (habs : Path.isAbsolute pattern = false) :
    filesOfPattern s baseDir pattern =
      (listing s (patternRoot baseDir pattern) (patternForm pattern) (levels pattern)).map
        fun f => .file (Place.path f.place) := by
  have hrest : (Text.split '/' pattern).drop (literalPieces pattern).length =
      wildPieces pattern := by
    rw [split_eq_append_wildPieces, List.drop_left]
  have hroot : (if Text.join "/" (literalPieces pattern) == "" then baseDir
      else Path.join baseDir (Text.join "/" (literalPieces pattern))) =
      patternRoot baseDir pattern := by
    unfold patternRoot
    simp only [beq_iff_eq, join_literalPieces_eq hwild habs, List.isEmpty_iff]
  unfold literalPieces at hrest hroot
  unfold filesOfPattern
  dsimp only
  rw [hrest, hroot]
  rfl

/-! ## How far down a file of a pattern is -/

/-- No file that fits is further down than a form without stars in a row has pieces. -/
theorem length_le_of_isMatch {names : List String} (hwild : Glob.hasWildcard pattern = true)
    (hstars : Text.contains "**" (patternForm pattern) = false)
    (hmatch : (Glob.ofString (patternForm pattern)).isMatch (Text.join "/" names) = true) :
    names.length ≤ (wildPieces pattern).length := by
  have hsingle : GlobToken.NoDoubleStar (patternForm pattern).toList := fun h =>
    Bool.eq_false_iff.1 hstars (Text.occursIn_iff.2 h)
  have hpieces : ∀ n ∈ wildPieces pattern, '/' ∉ n.toList := fun n hn =>
    Text.not_mem_of_mem_split (s := pattern) (by
      rw [split_eq_append_wildPieces]
      exact List.mem_append_right _ hn)
  -- backslashes in names only add to the slashes of the path
  have hchars : (Text.join "/" names).toList.count '/' ≤
      (Glob.pathChars (Text.join "/" names)).count '/' :=
    List.count_le_count_map (f := fun c => if c == '\\' then '/' else c) (x := '/')
  calc names.length
      ≤ (Text.join "/" names).toList.count '/' + 1 := Text.length_le_count_join names
    _ ≤ (Glob.pathChars (Text.join "/" names)).count '/' + 1 := Nat.succ_le_succ hchars
    _ = (patternForm pattern).toList.count '/' + 1 := by
      rw [Glob.count_slash_of_isMatch hsingle hmatch]
    _ = (wildPieces pattern).length :=
      Text.count_join_of_not_mem (wildPieces_ne_nil hwild) hpieces

/-- A bound on the levels leaves no file out that fits. -/
theorem listing_some (hwild : Glob.hasWildcard pattern = true)
    (hstars : Text.contains "**" (patternForm pattern) = false) :
    listing s root (patternForm pattern) (some (wildPieces pattern).length) =
      listing s root (patternForm pattern) none := by
  unfold listing
  congr 1
  rw [Storage.walk_some, List.filter_filter]
  refine List.filter_congr fun f _ => ?_
  rw [Bool.and_eq_left_iff_imp]
  intro hmatch
  exact decide_eq_true (length_le_of_isMatch hwild hstars hmatch)

theorem listing_levels (hwild : Glob.hasWildcard pattern = true) :
    listing s root (patternForm pattern) (levels pattern) =
      listing s root (patternForm pattern) none := by
  unfold levels
  split
  · rfl
  · next hstars => exact listing_some hwild (Bool.eq_false_iff.2 hstars)

/-! ## The files of a pattern -/

theorem mem_listing : f ∈ listing s root form depth ↔ f ∈ s.walk (fun _ => true) depth root ∧
    (Glob.ofString form).isMatch (Text.join "/" f.names) = true := by
  rw [listing, List.mem_mergeSort, List.mem_filter]

/-- A walk of all levels from what is not a file meets the files below it, where no link is. -/
theorem mem_walk_iff (hlinks : s.Unlinked []) (hroot : s.isFile root = false) :
    f ∈ s.walk (fun _ => true) none root ↔ ∃ r, s.locate root = .ok r ∧
      s.get? r = some .directory ∧ s.FileBelow r f.names f.bytes ∧ f.place = r ++ f.names := by
  cases hlocate : s.locate root with
  | error fault => simp [Storage.walk, hlocate]
  | ok r =>
    by_cases hdir : s.get? r = some .directory
    · rw [Storage.mem_walk hlocate hdir (hlinks.of_prefix List.nil_prefix)]
      constructor
      · rintro ⟨names, bytes, hbelow, -, rfl⟩
        exact ⟨r, rfl, hdir, hbelow, rfl⟩
      · rintro ⟨r', hr, -, hbelow, hplace⟩
        cases hr
        exact ⟨f.names, f.bytes, hbelow, fun _ _ => rfl, by rw [← hplace]⟩
    · have hwalk : s.walk (fun _ => true) none root = [] := by
        have hfile : ∀ bytes, s.get? r ≠ some (.file bytes) := fun bytes hget => by
          have hentry : s.entryAt root = .ok (.file bytes) :=
            except_bind_eq_ok.2 ⟨r, hlocate, by rw [hget]; rfl⟩
          rw [Storage.isFile, hentry] at hroot
          cases hroot
        unfold Storage.walk
        rw [hlocate]
        dsimp only
        split
        · next bytes hget => exact absurd hget (hfile bytes)
        · next hget => exact absurd hget hdir
        · rfl
      rw [hwalk]
      refine ⟨fun h => absurd h List.not_mem_nil, ?_⟩
      rintro ⟨r', hr, hdir', -⟩
      cases hr
      exact absurd hdir' hdir

theorem isListing_listing (hkeys : (s.entries.map Prod.fst).Nodup) (hlinks : s.Unlinked [])
    (hroot : s.isFile root = false) : IsListing s root form (listing s root form none) := by
  have hmem : ∀ f, f ∈ listing s root form none ↔ ∃ r, s.locate root = .ok r ∧
      s.get? r = some .directory ∧ s.FileBelow r f.names f.bytes ∧ f.place = r ++ f.names ∧
      (Glob.ofString form).isMatch (Text.join "/" f.names) = true := by
    intro f
    rw [mem_listing, mem_walk_iff hlinks hroot]
    simp only [← exists_and_right, and_assoc]
  -- all the places start with that of the directory, so names decide
  have hplaces : ∃ r : Place, (listing s root form none).map WalkedFile.place =
      ((listing s root form none).map WalkedFile.names).map (r ++ ·) := by
    refine ⟨(s.locate root).toOption.getD [], ?_⟩
    rw [List.map_map]
    refine List.map_congr_left fun f hf => ?_
    obtain ⟨r, hr, -, -, hplace, -⟩ := (hmem f).1 hf
    rw [hplace, hr]
    rfl
  obtain ⟨r, hplaces⟩ := hplaces
  refine ⟨?_, ?_, hmem⟩
  · rw [hplaces]
    refine List.Nodup.map (List.append_right_injective r) ?_
    refine ((List.mergeSort_perm _ _).map _).nodup_iff.2 ?_
    exact (Storage.nodup_walk hkeys).sublist (List.filter_sublist.map _)
  · rw [hplaces, List.map_map, List.pairwise_map]
    have hsorted := @List.pairwise_mergeSort WalkedFile
      (fun a b => Place.comesFirst a.names b.names)
      (fun _ _ _ => Place.comesFirst_trans)
      (fun a b => Bool.or_eq_true_iff.2 (Place.comesFirst_total a.names b.names))
    refine (hsorted _).imp fun {a b} h => ?_
    show Place.comesFirst (r ++ a.names) (r ++ b.names) = true
    rw [Place.comesFirst_append]
    exact h

/-- A pattern yields the files below the directory it starts with whose paths from there have the
form of the rest of it, each of them once and in order. The bound on the levels loses none. -/
theorem filesOfPattern_isListing (hwild : Glob.hasWildcard pattern = true)
    (habs : Path.isAbsolute pattern = false) (hkeys : (s.entries.map Prod.fst).Nodup)
    (hlinks : s.Unlinked []) (hroot : s.isFile (patternRoot baseDir pattern) = false) :
    let found := listing s (patternRoot baseDir pattern) (patternForm pattern)
    filesOfPattern s baseDir pattern =
        (found none).map (fun f => .file (Place.path f.place)) ∧
      IsListing s (patternRoot baseDir pattern) (patternForm pattern) (found none) ∧
      (Text.contains "**" (patternForm pattern) = false →
        found (some (wildPieces pattern).length) = found none) := by
  intro found
  refine ⟨?_, isListing_listing hkeys hlinks hroot, listing_some hwild⟩
  rw [filesOfPattern_eq_listing hwild habs, listing_levels hwild]

/-- A file whose name holds a backslash, a level above the files that a pattern has in mind. -/
def scattered : Storage :=
  ⟨[(["cfg"], .directory), (["cfg", "sub"], .directory), (["cfg", "sub", "b.md"], .file [98]),
    (["cfg", "x\\a.md"], .file [97])], []⟩

theorem unlinked_scattered : scattered.Unlinked [] :=
  Storage.unlinked_of_entries (by simp [scattered])

theorem split_scattered : Text.split '/' "cfg/*/*.md" = ["cfg", "*", "*.md"] := by decide

theorem patternRoot_scattered : patternRoot "/" "cfg/*/*.md" = "/cfg" := by
  have hpieces : literalPieces "cfg/*/*.md" = ["cfg"] := by
    rw [literalPieces, split_scattered]
    decide
  rw [patternRoot, hpieces]
  cbv

theorem isFile_scattered : scattered.isFile (patternRoot "/" "cfg/*/*.md") = false := by
  rw [patternRoot_scattered]
  cbv

/-- The files below the directory that the pattern starts with. -/
def scatteredFiles : List WalkedFile :=
  [⟨["sub", "b.md"], ["cfg", "sub", "b.md"], [98]⟩, ⟨["x\\a.md"], ["cfg", "x\\a.md"], [97]⟩]

theorem listing_scattered : listing scattered "/cfg" "*/*.md" none = scatteredFiles := by
  have hwalk : scattered.walk (fun _ => true) none "/cfg" = scatteredFiles := by cbv
  have hfits : ∀ f ∈ scatteredFiles,
      (Glob.ofString "*/*.md").isMatch (Text.join "/" f.names) = true := by decide
  rw [listing, hwalk, List.filter_eq_self.2 hfits]
  cbv

theorem filesOfPattern_scattered :
    Glob.hasWildcard "cfg/*/*.md" = true ∧ Path.isAbsolute "cfg/*/*.md" = false ∧
      (scattered.entries.map Prod.fst).Nodup ∧ scattered.Unlinked [] ∧
      scattered.isFile (patternRoot "/" "cfg/*/*.md") = false ∧
      filesOfPattern scattered "/" "cfg/*/*.md" =
        [.file "/cfg/sub/b.md", .file "/cfg/x\\a.md"] := by
  have hform : patternForm "cfg/*/*.md" = "*/*.md" := by
    rw [patternForm, wildPieces, split_scattered]
    decide
  refine ⟨by decide, by decide, by decide, unlinked_scattered, isFile_scattered, ?_⟩
  obtain ⟨hfiles, -⟩ := filesOfPattern_isListing (by decide) (by decide) (by decide)
    unlinked_scattered isFile_scattered
  rw [hfiles, patternRoot_scattered, hform, listing_scattered]
  cbv

end ImportWorld

end ContextCompiler
