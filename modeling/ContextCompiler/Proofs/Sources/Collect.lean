import ContextCompiler.Proofs.Glob.PathFilter
import ContextCompiler.Proofs.Registry.Documents
import ContextCompiler.Sources.Local

/-!
Which files a directory yields.

The walk leaves out directories that the filter excludes, with all that is below. A file that the
filter selects by its own path is lost where it stands below such a directory. This cannot happen
where each exclude entry is a part of paths or keeps to one segment.
-/

namespace ContextCompiler

namespace LocalFile

variable {s : Storage} {r : Place} {filter : PathFilter} {baseDir sourcePath : String}
  {names names' : List String} {bytes bytes' : List UInt8} {files : List LocalFile}

/-- The file that names lead to below a source path. -/
def reached (baseDir sourcePath : String) (names : List String) (bytes : List UInt8) : LocalFile :=
  ⟨joinDisplay sourcePath (Text.join "/" names),
    Path.parts (Path.join baseDir sourcePath) ++ names.map .name, bytes⟩

/-- Names that do not lead through a directory `.git`. -/
def OutsideGit (names : List String) : Prop :=
  ∀ dir, Place.IsOver dir names → dir.getLast? ≠ some ".git"

/-- The files are those below a place that the filter selects, each of them once. -/
structure AreSelected (s : Storage) (r : Place) (filter : PathFilter)
    (baseDir sourcePath : String) (files : List LocalFile) : Prop where
  nodup : (files.map LocalFile.path).Nodup
  mem_iff : ∀ f, f ∈ files ↔ ∃ names bytes, s.FileBelow r names bytes ∧ OutsideGit names ∧
    filter.selects (Text.join "/" names) = true ∧ f = reached baseDir sourcePath names bytes

/-- The files are those below a place that the filter selects and that no excluded directory is
over, each of them once. -/
structure AreUnpruned (s : Storage) (r : Place) (filter : PathFilter)
    (baseDir sourcePath : String) (files : List LocalFile) : Prop where
  nodup : (files.map LocalFile.path).Nodup
  mem_iff : ∀ f, f ∈ files ↔ ∃ names bytes, s.FileBelow r names bytes ∧ OutsideGit names ∧
    filter.selects (Text.join "/" names) = true ∧
    (∀ dir, Place.IsOver dir names → filter.isExcluded (Text.join "/" dir) = false) ∧
    f = reached baseDir sourcePath names bytes

theorem names_eq_of_path_reached
    (h : (reached baseDir sourcePath names bytes).path =
      (reached baseDir sourcePath names' bytes').path) : names = names' :=
  List.map_injective_iff.2 (fun _ _ => Path.Part.name.inj) (List.append_cancel_left h)

/-- A file below a place is known by its path. -/
theorem reached_eq_of_path (hbelow : s.FileBelow r names bytes)
    (hbelow' : s.FileBelow r names' bytes')
    (h : (reached baseDir sourcePath names bytes).path =
      (reached baseDir sourcePath names' bytes').path) :
    reached baseDir sourcePath names bytes = reached baseDir sourcePath names' bytes' := by
  obtain rfl := names_eq_of_path_reached h
  have hbytes := hbelow.file.symm.trans hbelow'.file
  cases hbytes
  rfl

/-- The walk from a directory, with the files that the filter selects. -/
theorem exists_below (filter : PathFilter) (hroot : s.locate (Path.join baseDir sourcePath) = .ok r)
    (hdir : s.get? r = some .directory) (hlinks : s.Unlinked r) :
    ∃ found, below s baseDir filter none sourcePath = .ok found ∧
      ∀ f, f ∈ found ↔ ∃ names bytes, s.FileBelow r names bytes ∧ OutsideGit names ∧
        filter.selects (Text.join "/" names) = true ∧
        (∀ dir, Place.IsOver dir names → filter.isExcluded (Text.join "/" dir) = false) ∧
        f = reached baseDir sourcePath names bytes := by
  have hentry : s.entryAt (Path.join baseDir sourcePath) = .ok .directory :=
    except_bind_eq_ok.2 ⟨r, hroot, by rw [hdir]; rfl⟩
  unfold below
  dsimp only
  rw [hentry]
  refine ⟨_, rfl, fun f => ?_⟩
  rw [List.mem_filterMap]
  constructor
  · rintro ⟨w, hw, hf⟩
    obtain ⟨names, bytes, hbelow, henters, rfl⟩ := (Storage.mem_walk hroot hdir hlinks).1 hw
    dsimp only at hf
    split at hf
    · next hselects =>
      have hover := fun dir hdir => Bool.and_eq_true_iff.1 (henters dir hdir)
      exact ⟨names, bytes, hbelow, fun dir hdir => bne_iff_ne.1 (hover dir hdir).1, hselects,
        fun dir hdir => by simpa using (hover dir hdir).2, (Option.some.inj hf).symm⟩
    · cases hf
  · rintro ⟨names, bytes, hbelow, hgit, hselects, hpruned, rfl⟩
    refine ⟨_, (Storage.mem_walk hroot hdir hlinks).2 ⟨names, bytes, hbelow, ?_, rfl⟩, ?_⟩
    · exact fun dir hdir => Bool.and_eq_true_iff.2
        ⟨bne_iff_ne.2 (hgit dir hdir), by rw [hpruned dir hdir]; rfl⟩
    · exact if_pos hselects

/-- A directory yields the files below it that are selected and not pruned. -/
theorem collect_areUnpruned (filter : PathFilter)
    (hroot : s.locate (Path.join baseDir sourcePath) = .ok r)
    (hdir : s.get? r = some .directory) (hlinks : s.Unlinked r) :
    ∃ files, collect s baseDir [sourcePath] filter none = .ok files ∧
      AreUnpruned s r filter baseDir sourcePath files := by
  obtain ⟨found, hfound, hmem⟩ := exists_below filter hroot hdir hlinks
  refine ⟨addAllNew LocalFile.path [] found, ?_, nodup_keys_addAllNew found .nil, fun f => ?_⟩
  · unfold collect
    rw [List.isEmpty_cons, if_neg Bool.false_ne_true, List.foldlM_cons, hfound]
    rfl
  rw [← hmem]
  refine ⟨fun h => (mem_of_mem_addAllNew h).resolve_left List.not_mem_nil, fun h => ?_⟩
  -- another file of the path may stand in its place, but that file is the same
  have hkey : f.path ∈ (addAllNew LocalFile.path [] found).map LocalFile.path :=
    mem_keys_addAllNew.2 (.inr (List.mem_map_of_mem h))
  obtain ⟨g, hg, hpath⟩ := List.mem_map.1 hkey
  have hg' := (mem_of_mem_addAllNew hg).resolve_left List.not_mem_nil
  obtain ⟨names, bytes, hbelow, -, -, -, rfl⟩ := (hmem f).1 h
  obtain ⟨names', bytes', hbelow', -, -, -, rfl⟩ := (hmem g).1 hg'
  rwa [reached_eq_of_path hbelow hbelow' hpath.symm]

/-- Where no excluded directory is over a selected file, pruning drops nothing, and only there. -/
theorem AreUnpruned.areSelected_iff (h : AreUnpruned s r filter baseDir sourcePath files) :
    AreSelected s r filter baseDir sourcePath files ↔
      ∀ names bytes, s.FileBelow r names bytes → OutsideGit names →
        filter.selects (Text.join "/" names) = true →
        ∀ dir, Place.IsOver dir names → filter.isExcluded (Text.join "/" dir) = false := by
  constructor
  · intro hall names bytes hbelow hgit hselects
    obtain ⟨names', bytes', -, -, -, hpruned, heq⟩ :=
      (h.mem_iff _).1 ((hall.mem_iff _).2 ⟨names, bytes, hbelow, hgit, hselects, rfl⟩)
    rwa [names_eq_of_path_reached (congrArg LocalFile.path heq)]
  · intro hnone
    refine ⟨h.nodup, fun f => (h.mem_iff f).trans ?_⟩
    refine exists_congr fun names => exists_congr fun bytes => and_congr_right fun hbelow =>
      and_congr_right fun hgit => and_congr_right fun hselects => ?_
    exact and_iff_right (hnone names bytes hbelow hgit hselects)

/-- A directory yields the selected files that are not pruned. Those are all the selected files if
and only if no selected file has an excluded directory over it, and so whenever the exclude entries
that are patterns keep to one segment. -/
theorem collect_directory (filePattern path notPath : List String)
    (hroot : s.locate (Path.join baseDir sourcePath) = .ok r)
    (hdir : s.get? r = some .directory) (hlinks : s.Unlinked r) :
    let filter := PathFilter.ofLists filePattern path notPath
    ∃ files, collect s baseDir [sourcePath] filter none = .ok files ∧
      AreUnpruned s r filter baseDir sourcePath files ∧
      (AreSelected s r filter baseDir sourcePath files ↔
        ∀ names bytes, s.FileBelow r names bytes → OutsideGit names →
          filter.selects (Text.join "/" names) = true →
          ∀ dir, Place.IsOver dir names → filter.isExcluded (Text.join "/" dir) = false) ∧
      ((∀ entry ∈ notPath, Glob.hasWildcard entry = true →
          GlobToken.KeepsToSegment entry.toList) →
        AreSelected s r filter baseDir sourcePath files) := by
  intro filter
  obtain ⟨files, hfiles, hunpruned⟩ := collect_areUnpruned filter hroot hdir hlinks
  refine ⟨files, hfiles, hunpruned, hunpruned.areSelected_iff, fun hentries => ?_⟩
  refine hunpruned.areSelected_iff.2 fun names bytes _ _ hselects dir hover => ?_
  rw [← Bool.not_eq_true]
  intro hexcluded
  have hnames := PathFilter.isExcluded_of_isOver
    (PathFilter.isInherited_of_mem_ofLists hentries) hover hexcluded
  rw [PathFilter.isExcluded_of_selects hselects] at hnames
  cases hnames

/-- A file two directories down. -/
def nested : Storage :=
  ⟨[(["src"], .directory), (["src", "api"], .directory), (["src", "api", "x.rs"], .file [120])], []⟩

theorem unlinked_nested : nested.Unlinked [] :=
  Storage.unlinked_of_entries (by simp [nested])

theorem locate_nested : nested.locate (Path.join "/" ".") = .ok [] := by cbv

theorem eq_of_isOver_nested {dir : List String} (h : Place.IsOver dir ["src", "api", "x.rs"]) :
    dir = ["src"] ∨ dir = ["src", "api"] := by
  refine ((Place.isOver_cons_iff (by decide)).1 h).imp_right ?_
  rintro ⟨rest, rfl, hrest⟩
  obtain rfl | ⟨last, rfl, hlast⟩ := (Place.isOver_cons_iff (by decide)).1 hrest
  · rfl
  · exact absurd hlast Place.not_isOver_singleton

theorem fileBelow_nested : nested.FileBelow [] ["src", "api", "x.rs"] [120] := by
  refine ⟨by decide, fun dir hover => ?_, by decide⟩
  rcases eq_of_isOver_nested hover with rfl | rfl <;> decide

theorem collect_nested : ∃ files,
    collect nested "/" ["."] (.ofLists ["*.rs"] [] ["*.lock", "target"]) none = .ok files ∧
      AreSelected nested [] (.ofLists ["*.rs"] [] ["*.lock", "target"]) "/" "." files := by
  obtain ⟨files, hfiles, -, -, hselected⟩ := collect_directory ["*.rs"] []
    ["*.lock", "target"] locate_nested rfl unlinked_nested
  exact ⟨files, hfiles, hselected (by decide)⟩

/-- Excluding what is right below a directory drops files further down as well. -/
theorem pruning_drops_selected :
    ¬ ∀ (s : Storage) (r : Place) (baseDir sourcePath : String)
      (filePattern path notPath : List String),
      s.locate (Path.join baseDir sourcePath) = .ok r → s.get? r = some .directory →
      s.Unlinked r → ∃ files,
        collect s baseDir [sourcePath] (.ofLists filePattern path notPath) none = .ok files ∧
          AreSelected s r (.ofLists filePattern path notPath) baseDir sourcePath files := by
  intro hall
  obtain ⟨files, hfiles, hselected⟩ := hall nested [] "/" "." [] [] ["src/*"] locate_nested rfl
    unlinked_nested
  obtain ⟨files', hfiles', hunpruned⟩ := collect_areUnpruned
    (.ofLists [] [] ["src/*"]) locate_nested rfl unlinked_nested
  cases hfiles.symm.trans hfiles'
  have hgit : OutsideGit ["src", "api", "x.rs"] := fun dir hover => by
    rcases eq_of_isOver_nested hover with rfl | rfl <;> decide
  have hkept := hunpruned.areSelected_iff.1 hselected _ _ fileBelow_nested hgit (by decide)
    ["src", "api"] (by decide)
  revert hkept
  decide

end LocalFile

end ContextCompiler
