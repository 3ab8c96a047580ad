import Mathlib.Data.List.Sort
import ContextCompiler.Proofs.Glob.Match
import ContextCompiler.Sources.Repository

/-!
Which paths of a listing are selected.

A path is seen from each root that it lies under, and the filter sees what it is called from there.
It should be selected when it passes from any of its roots; but it is looked at from one root only,
the first that it lies under. Both come to the same where no root lies under another one.
-/

namespace ContextCompiler

/-- Texts are put in one order, however they were listed. -/
theorem mergeSort_eq_of_perm {xs ys : List String} (h : xs.Perm ys) :
    xs.mergeSort = ys.mergeSort := by
  have hsorted : ∀ l : List String, l.mergeSort.Pairwise (· ≤ ·) := fun l => by
    have hl := @List.pairwise_mergeSort _ (fun a b : String => decide (a ≤ b))
      (fun a b c hab hbc => by
        rw [decide_eq_true_eq] at hab hbc ⊢
        exact String.le_trans hab hbc)
      (fun a b => by
        rw [Bool.or_eq_true, decide_eq_true_eq, decide_eq_true_eq]
        exact String.le_total a b) l
    simpa only [decide_eq_true_eq] using hl
  exact List.Perm.eq_of_pairwise (fun _ _ _ _ => String.le_antisymm) (hsorted xs) (hsorted ys)
    (((List.mergeSort_perm xs _).trans h).trans (List.mergeSort_perm ys _).symm)

namespace RepositoryPaths

variable {root path rel : String} {roots sourcePaths paths : List String} {filter : PathFilter}

/-! ## Roots -/

/-- A root that stands for the whole repository. -/
def IsWhole (root : String) : Prop := root = "" ∨ root = "."

instance : Decidable (IsWhole root) := inferInstanceAs (Decidable (_ ∨ _))

/-- What a path is called from a root that it lies under. -/
inductive SeenFrom (root path : String) : String → Prop
  | whole : IsWhole root → SeenFrom root path path
  | self : ¬ IsWhole root → path = root → SeenFrom root path (PathFilter.fileName path)
  | below {rel : String} : ¬ IsWhole root → path = root ++ "/" ++ rel → SeenFrom root path rel

/-- What a path is called from the one root that it is looked at from: the first that it lies
under, but the whole repository where that is among the roots. -/
inductive SeenFirst (path : String) : List String → String → Prop
  | whole {roots : List String} {root : String} :
      root ∈ roots → IsWhole root → SeenFirst path roots path
  | first {front back : List String} {root rel : String} :
      (∀ r ∈ front ++ root :: back, ¬ IsWhole r) → (∀ r ∈ front, ∀ x, ¬ SeenFrom r path x) →
      SeenFrom root path rel → SeenFirst path (front ++ root :: back) rel

/-- The roots of a source; without source paths it has the whole repository. -/
def rootsOf (sourcePaths : List String) : List String :=
  if sourcePaths.isEmpty then [""] else sourcePaths.map cleanRoot

/-- What a path is called from a root, if it lies there. -/
def seenFrom? (root path : String) : Option String :=
  if IsWhole root then some path else relativeTo? root path

theorem relativeTo?_eq_some_iff (h : ¬ IsWhole root) :
    relativeTo? root path = some rel ↔ SeenFrom root path rel := by
  have hbelow : (Text.dropPrefix? (root.toList ++ ['/']) path.toList).map String.ofList = some rel ↔
      path = root ++ "/" ++ rel := by
    rw [Option.map_eq_some_iff]
    constructor
    · rintro ⟨cs, hcs, rfl⟩
      refine String.toList_injective ?_
      simpa using Text.dropPrefix?_eq_some_iff.1 hcs
    · rintro rfl
      exact ⟨rel.toList, Text.dropPrefix?_eq_some_iff.2 (by simp), String.ofList_toList⟩
  unfold relativeTo?
  split
  · next heq =>
    rw [beq_iff_eq] at heq
    constructor
    · intro hname
      exact Option.some.inj hname ▸ .self h heq
    · rintro (hwhole | ⟨-, -⟩ | ⟨-, hpath⟩)
      · exact absurd hwhole h
      · rfl
      · -- the root is no path below itself
        have hlength := congrArg String.length (heq.symm.trans hpath)
        have hslash : "/".length = 1 := rfl
        rw [String.length_append, String.length_append, hslash] at hlength
        omega
  · next hne =>
    rw [beq_iff_eq] at hne
    rw [hbelow]
    constructor
    · exact .below h
    · rintro (hwhole | ⟨-, heq⟩ | ⟨-, hpath⟩)
      · exact absurd hwhole h
      · exact absurd heq hne
      · exact hpath

theorem seenFrom?_eq_some_iff : seenFrom? root path = some rel ↔ SeenFrom root path rel := by
  unfold seenFrom?
  split
  · next h =>
    constructor
    · intro hsome
      exact Option.some.inj hsome ▸ .whole h
    · rintro (- | ⟨hnot, -⟩ | ⟨hnot, -⟩)
      · rfl
      · exact absurd h hnot
      · exact absurd h hnot
  · next h => exact relativeTo?_eq_some_iff h

theorem relative?_of_whole (h : ∃ root ∈ roots, IsWhole root) :
    relative? roots path = some path := by
  have hany : (roots.any fun r => r == "" || r == ".") = true := by simpa [IsWhole] using h
  rw [relative?, hany, Bool.or_true, if_pos rfl]

theorem relative?_of_not_whole (hne : roots ≠ []) (h : ∀ root ∈ roots, ¬ IsWhole root) :
    relative? roots path = roots.findSome? fun root => relativeTo? root path := by
  have hany : (roots.any fun r => r == "" || r == ".") = false := by simpa [IsWhole] using h
  have hempty : roots.isEmpty = false := by simpa using hne
  rw [relative?, hany, hempty, Bool.or_false, if_neg Bool.false_ne_true]

theorem relative?_eq_some_iff (hne : roots ≠ []) :
    relative? roots path = some rel ↔ SeenFirst path roots rel := by
  by_cases hwhole : ∃ root ∈ roots, IsWhole root
  · rw [relative?_of_whole hwhole]
    obtain ⟨root, hroot, hw⟩ := hwhole
    constructor
    · intro hsome
      exact Option.some.inj hsome ▸ .whole hroot hw
    · rintro (- | ⟨hnone, -, -⟩)
      · rfl
      · exact absurd hw (hnone root hroot)
  · have hnot : ∀ r ∈ roots, ¬ IsWhole r := fun r hr hw => hwhole ⟨r, hr, hw⟩
    rw [relative?_of_not_whole hne hnot, List.findSome?_eq_some_iff]
    constructor
    · rintro ⟨front, root, back, rfl, hrel, hfront⟩
      refine .first hnot (fun r hr x hx => ?_)
        ((relativeTo?_eq_some_iff (hnot root (by simp))).1 hrel)
      have hnone := hfront r hr
      rw [(relativeTo?_eq_some_iff (hnot r (by simp [hr]))).2 hx] at hnone
      cases hnone
    · rintro (⟨hroot, hw⟩ | ⟨-, hfront, hrel⟩)
      · exact absurd hw (hnot _ hroot)
      · refine ⟨_, _, _, rfl, (relativeTo?_eq_some_iff (hnot _ (by simp))).2 hrel, fun r hr => ?_⟩
        rw [Option.eq_none_iff_forall_ne_some]
        exact fun x hx => hfront r hr x ((relativeTo?_eq_some_iff (hnot r (by simp [hr]))).1 hx)

theorem rootsOf_ne_nil (sourcePaths : List String) : rootsOf sourcePaths ≠ [] := by
  cases sourcePaths <;> simp [rootsOf]

theorem relative?_rootsOf (sourcePaths : List String) (path : String) :
    relative? (sourcePaths.map cleanRoot) path = relative? (rootsOf sourcePaths) path := by
  cases sourcePaths <;> rfl

/-- What a path is called from its one root it is called from some root. -/
theorem SeenFirst.exists_seenFrom (h : SeenFirst path roots rel) :
    ∃ root ∈ roots, SeenFrom root path rel := by
  cases h with
  | whole hroot hw => exact ⟨_, hroot, .whole hw⟩
  | first _ _ hrel => exact ⟨_, by simp, hrel⟩

/-- A path that lies under some root has one that it is looked at from. -/
theorem exists_seenFirst (hroot : root ∈ roots) (h : SeenFrom root path rel) :
    ∃ first, SeenFirst path roots first := by
  have hne := List.ne_nil_of_mem hroot
  by_cases hwhole : ∃ root ∈ roots, IsWhole root
  · obtain ⟨w, hw, hwhole⟩ := hwhole
    exact ⟨path, .whole hw hwhole⟩
  · have hnot : ∀ r ∈ roots, ¬ IsWhole r := fun r hr hw => hwhole ⟨r, hr, hw⟩
    have hsome : (roots.findSome? fun root => relativeTo? root path).isSome = true := by
      rw [List.findSome?_isSome_iff]
      exact ⟨root, hroot, by rw [(relativeTo?_eq_some_iff (hnot root hroot)).2 h]; rfl⟩
    obtain ⟨first, hfirst⟩ := Option.isSome_iff_exists.1 hsome
    rw [← relative?_of_not_whole hne hnot, relative?_eq_some_iff hne] at hfirst
    exact ⟨first, hfirst⟩

theorem SeenFirst.unique {rel' : String} (hne : roots ≠ []) (h : SeenFirst path roots rel)
    (h' : SeenFirst path roots rel') : rel = rel' :=
  Option.some.inj (((relative?_eq_some_iff hne).2 h).symm.trans ((relative?_eq_some_iff hne).2 h'))

/-! ## Selected paths -/

/-- A path passes the filter as it is called from some root. -/
def Passes (sourcePaths : List String) (filter : PathFilter) (path : String) : Prop :=
  ∃ root ∈ rootsOf sourcePaths, ∃ rel, SeenFrom root path rel ∧ filter.selects rel = true

/-- A path passes the filter as it is called from its one root. -/
def PassesFirst (sourcePaths : List String) (filter : PathFilter) (path : String) : Prop :=
  ∃ rel, SeenFirst path (rootsOf sourcePaths) rel ∧ filter.selects rel = true

instance (sourcePaths : List String) (filter : PathFilter) (path : String) :
    Decidable (Passes sourcePaths filter path) :=
  decidable_of_iff
    ((rootsOf sourcePaths).any fun root => (seenFrom? root path).any filter.selects) (by
      simp only [List.any_eq_true, Option.any_eq_true, seenFrom?_eq_some_iff, Passes])

/-- The paths of a listing that pass, in order. -/
def passing (paths sourcePaths : List String) (filter : PathFilter) : List String :=
  (paths.filter fun path => decide (Passes sourcePaths filter path)).mergeSort

theorem PassesFirst.passes (h : PassesFirst sourcePaths filter path) :
    Passes sourcePaths filter path := by
  obtain ⟨rel, hfirst, hselects⟩ := h
  obtain ⟨root, hroot, hrel⟩ := hfirst.exists_seenFrom
  exact ⟨root, hroot, rel, hrel, hselects⟩

theorem any_relative? : (relative? (sourcePaths.map cleanRoot) path).any filter.selects = true ↔
    PassesFirst sourcePaths filter path := by
  rw [relative?_rootsOf, Option.any_eq_true]
  simp only [relative?_eq_some_iff (rootsOf_ne_nil sourcePaths), PassesFirst]

theorem mem_select : path ∈ select paths sourcePaths filter ↔
    path ∈ paths ∧ PassesFirst sourcePaths filter path := by
  rw [select, List.mem_mergeSort, List.mem_filter, any_relative?]

theorem mem_passing : path ∈ passing paths sourcePaths filter ↔
    path ∈ paths ∧ Passes sourcePaths filter path := by
  rw [passing, List.mem_mergeSort, List.mem_filter, decide_eq_true_iff]

/-- What is selected is what passes, if every listed path that passes does so from its one root. -/
theorem select_eq_passing_iff_of_listing (paths sourcePaths : List String) (filter : PathFilter) :
    select paths sourcePaths filter = passing paths sourcePaths filter ↔
      ∀ path ∈ paths, Passes sourcePaths filter path → PassesFirst sourcePaths filter path := by
  constructor
  · intro h path hpath hpasses
    have hmem := mem_passing.2 ⟨hpath, hpasses⟩
    rw [← h] at hmem
    exact (mem_select.1 hmem).2
  · intro h
    have hfilter : paths.filter (fun p => (relative? (sourcePaths.map cleanRoot) p).any
        filter.selects) = paths.filter fun p => decide (Passes sourcePaths filter p) := by
      refine List.filter_congr fun path hpath => ?_
      rw [Bool.eq_iff_iff, any_relative?, decide_eq_true_iff]
      exact ⟨PassesFirst.passes, h path hpath⟩
    rw [select, passing, hfilter]

theorem select_of_perm {paths' : List String} (h : paths.Perm paths') (sourcePaths : List String)
    (filter : PathFilter) : select paths' sourcePaths filter = select paths sourcePaths filter :=
  mergeSort_eq_of_perm (h.filter _).symm

/-! ## Roots under one another -/

/-- No root lies under another one: all of them stand for the whole repository, or none does and
none is a path below another. -/
def Apart (roots : List String) : Prop :=
  (∀ root ∈ roots, IsWhole root) ∨
    (∀ root ∈ roots, ¬ IsWhole root) ∧ ∀ root ∈ roots, ∀ rel, root ++ "/" ++ rel ∉ roots

theorem Apart.congr {roots' : List String} (h : ∀ root, root ∈ roots ↔ root ∈ roots') :
    Apart roots ↔ Apart roots' := by
  simp only [Apart, h]

/-- From roots that are apart a path is called the same. -/
theorem Apart.seenFrom_eq {root' rel' : String} (h : Apart roots) (hroot : root ∈ roots)
    (hroot' : root' ∈ roots) (hrel : SeenFrom root path rel) (hrel' : SeenFrom root' path rel') :
    rel = rel' := by
  rcases h with hwhole | ⟨hnone, hapart⟩
  · rcases hrel with - | ⟨hnot, -⟩ | ⟨hnot, -⟩
    · rcases hrel' with - | ⟨hnot, -⟩ | ⟨hnot, -⟩
      · rfl
      · exact absurd (hwhole _ hroot') hnot
      · exact absurd (hwhole _ hroot') hnot
    · exact absurd (hwhole _ hroot) hnot
    · exact absurd (hwhole _ hroot) hnot
  · rcases hrel with hw | ⟨-, hself⟩ | ⟨-, hbelow⟩
    · exact absurd hw (hnone _ hroot)
    · rcases hrel' with hw | - | ⟨-, hbelow'⟩
      · exact absurd hw (hnone _ hroot')
      · rfl
      · rw [← hself, hbelow'] at hroot
        exact absurd hroot (hapart _ hroot' _)
    · rcases hrel' with hw | ⟨-, hself'⟩ | ⟨-, hbelow'⟩
      · exact absurd hw (hnone _ hroot')
      · rw [← hself', hbelow] at hroot'
        exact absurd hroot' (hapart _ hroot _)
      · -- of two roots that are followed by a slash one is the start of the other
        have htext := congrArg String.toList (hbelow.symm.trans hbelow')
        simp only [String.toList_append, List.append_assoc] at htext
        rcases List.append_eq_append_iff.1 htext with ⟨cs, hcs, hrest⟩ | ⟨cs, hcs, hrest⟩
        · cases cs with
          | nil => exact String.toList_injective (by simpa using hrest)
          | cons c cs =>
            obtain rfl : '/' = c := (List.cons.inj hrest).1
            have hname : root' = root ++ "/" ++ String.ofList cs :=
              String.toList_injective (by simpa using hcs)
            exact absurd (hname ▸ hroot') (hapart _ hroot _)
        · cases cs with
          | nil => exact String.toList_injective (by simpa using hrest.symm)
          | cons c cs =>
            obtain rfl : '/' = c := (List.cons.inj hrest).1
            have hname : root = root' ++ "/" ++ String.ofList cs :=
              String.toList_injective (by simpa using hcs)
            exact absurd (hname ▸ hroot) (hapart _ hroot' _)

theorem Apart.passesFirst (h : Apart (rootsOf sourcePaths))
    (hpasses : Passes sourcePaths filter path) : PassesFirst sourcePaths filter path := by
  obtain ⟨root, hroot, rel, hrel, hselects⟩ := hpasses
  obtain ⟨first, hfirst⟩ := exists_seenFirst hroot hrel
  obtain ⟨root', hroot', hrel'⟩ := hfirst.exists_seenFrom
  exact ⟨first, hfirst, h.seenFrom_eq hroot hroot' hrel hrel' ▸ hselects⟩

/-- Under roots of which one lies under the other, a path has two names of different lengths. -/
theorem exists_two_names (h : ¬ Apart roots) : ∃ path, ∃ root ∈ roots, ∃ root' ∈ roots, ∃ x y,
    SeenFrom root path x ∧ SeenFrom root' path y ∧ x.length < y.length ∧
      '/' ∈ x.toList ∧ '/' ∈ y.toList := by
  rw [Apart, not_or, not_and_or] at h
  obtain ⟨hwhole, hnested⟩ := h
  simp only [not_forall, not_not] at hwhole hnested
  obtain ⟨root, hroot, hnot⟩ := hwhole
  have hslash : "/".length = 1 := rfl
  by_cases hsome : ∃ w ∈ roots, IsWhole w
  · obtain ⟨w, hw, hwhole⟩ := hsome
    exact ⟨root ++ "/" ++ "a/b", root, hroot, w, hw, "a/b", _, .below hnot rfl, .whole hwhole,
      by simp [String.length_append, hslash], by decide, by simp⟩
  · have hnone : ∀ r ∈ roots, ¬ IsWhole r := fun r hr hw => hsome ⟨r, hr, hw⟩
    obtain ⟨r, hr, hw⟩ | ⟨r, hr, rel, hmem⟩ := hnested
    · exact absurd hw (hnone r hr)
    · refine ⟨r ++ "/" ++ rel ++ "/" ++ "a/b", _, hmem, r, hr, "a/b", rel ++ "/" ++ "a/b",
        .below (hnone _ hmem) rfl, .below (hnone r hr) ?_, ?_, by decide, by simp⟩
      · simp only [String.append_assoc]
      · simp [String.length_append, hslash]

/-! ## Filters for one length -/

/-- A pattern for the paths that have their slashes where a path has them. -/
def likeness (path : String) : String :=
  String.ofList (path.toList.map fun c => if c = '/' ∨ c = '\\' then '/' else '?')

theorem selects_likeness (h : '/' ∈ path.toList) :
    (PathFilter.ofLists [likeness path] [] []).selects path = true ∧
      ∀ other, (PathFilter.ofLists [likeness path] [] []).selects other = true →
        other.length = path.length := by
  have hstar : '*' ∉ (likeness path).toList := by
    simp only [likeness, String.toList_ofList, List.mem_map, not_exists, not_and]
    intro c _
    split <;> decide
  have hselects : ∀ other, (PathFilter.ofLists [likeness path] [] []).selects other =
      Glob.matchTokens ((likeness path).toList.map GlobToken.plain) (Glob.pathChars other) := by
    intro other
    have hslash : '/' ∈ (likeness path).toList := by
      rw [likeness, String.toList_ofList]
      exact List.mem_map.2 ⟨'/', h, by decide⟩
    simp [PathFilter.selects, PathFilter.ofLists, PathFilter.matchers, PathFilter.isExcluded,
      PathFilter.patternSelects, Glob.ofString, hslash, Glob.isMatch_eq,
      GlobToken.ofChars_of_not_mem hstar]
  refine ⟨?_, fun other hother => ?_⟩
  · rw [hselects, likeness, String.toList_ofList, Glob.pathChars]
    generalize path.toList = cs
    induction cs with
    | nil => rfl
    | cons c cs ih =>
      rw [List.map_cons, List.map_cons, List.map_cons]
      by_cases hc : c = '/' ∨ c = '\\'
      · rw [if_pos hc]
        rcases hc with rfl | rfl <;> simpa [GlobToken.plain, Glob.matchTokens] using ih
      · rw [if_neg hc]
        rw [not_or] at hc
        simpa [GlobToken.plain, Glob.matchTokens, hc] using ih
  · rw [hselects] at hother
    have hlength := Glob.length_of_matchTokens_plain hother
    rw [Glob.pathChars, likeness, String.toList_ofList, List.length_map, List.length_map] at hlength
    exact hlength

/-- What is selected is what passes, for every listing and filter, if no root lies under another. -/
theorem apart_iff (sourcePaths : List String) : Apart (rootsOf sourcePaths) ↔
    ∀ paths filter, select paths sourcePaths filter = passing paths sourcePaths filter := by
  constructor
  · intro h paths filter
    exact (select_eq_passing_iff_of_listing paths sourcePaths filter).2 fun _ _ => h.passesFirst
  · intro h
    by_contra hnot
    obtain ⟨path, root, hroot, root', hroot', x, y, hx, hy, hlt, hxslash, hyslash⟩ :=
      exists_two_names hnot
    have hfirst := fun filter hpasses =>
      (select_eq_passing_iff_of_listing [path] sourcePaths filter).1 (h _ _) path (by simp) hpasses
    -- the one name that counts would have both lengths
    obtain ⟨z, hz, hzx⟩ := hfirst _ ⟨root, hroot, x, hx, (selects_likeness hxslash).1⟩
    obtain ⟨z', hz', hzy⟩ := hfirst _ ⟨root', hroot', y, hy, (selects_likeness hyslash).1⟩
    obtain rfl := hz.unique (rootsOf_ne_nil _) hz'
    have hx := (selects_likeness hxslash).2 _ hzx
    have hy := (selects_likeness hyslash).2 _ hzy
    omega

theorem mem_rootsOf_of_perm {sourcePaths' : List String} (h : sourcePaths.Perm sourcePaths')
    (root : String) : root ∈ rootsOf sourcePaths ↔ root ∈ rootsOf sourcePaths' := by
  have hempty : sourcePaths.isEmpty = sourcePaths'.isEmpty := by
    rw [Bool.eq_iff_iff, List.isEmpty_iff, List.isEmpty_iff]
    exact ⟨fun e => (e ▸ h).nil_eq.symm, fun e => (e ▸ h).eq_nil⟩
  rw [rootsOf, rootsOf, hempty]
  split
  · rfl
  · exact (h.map cleanRoot).mem_iff

/-- What is selected is the listed paths that pass, in order, exactly when every one of them that
passes does so from its one root; this holds for every listing and every filter exactly when no
root lies under another. The order of the listing never counts, and that of the roots does not
where they are apart. -/
theorem select_eq_passing_iff (sourcePaths : List String) :
    (∀ paths filter, select paths sourcePaths filter = passing paths sourcePaths filter ↔
      ∀ path ∈ paths, Passes sourcePaths filter path → PassesFirst sourcePaths filter path) ∧
    (Apart (rootsOf sourcePaths) ↔
      ∀ paths filter, select paths sourcePaths filter = passing paths sourcePaths filter) ∧
    (∀ (paths paths' : List String) filter, paths.Perm paths' →
      select paths' sourcePaths filter = select paths sourcePaths filter) ∧
    (Apart (rootsOf sourcePaths) → ∀ paths (sourcePaths' : List String) filter,
      sourcePaths.Perm sourcePaths' →
        select paths sourcePaths' filter = select paths sourcePaths filter) := by
  refine ⟨fun paths filter => select_eq_passing_iff_of_listing paths sourcePaths filter,
    apart_iff sourcePaths, fun _ _ filter h => select_of_perm h sourcePaths filter,
    fun hapart paths sourcePaths' filter h => ?_⟩
  have hroots := mem_rootsOf_of_perm h
  have hapart' := (Apart.congr hroots).1 hapart
  rw [(apart_iff sourcePaths').1 hapart', (apart_iff sourcePaths).1 hapart, passing, passing]
  have hpasses : ∀ path, Passes sourcePaths' filter path ↔ Passes sourcePaths filter path :=
    fun path => by simp only [Passes, hroots]
  simp only [hpasses]

/-- The paths of a listing with a directory inside another one. -/
def listing : List String := ["src/api/x.rs", "src/b.rs", "docs/a.md"]

theorem listing_eq_passing :
    Apart (rootsOf ["docs/", "./src"]) ∧
      select listing ["docs/", "./src"] (.ofLists ["*.rs", "a.md"] [] ["b"]) =
        ["docs/a.md", "src/api/x.rs"] := by
  have hapart : Apart (rootsOf ["docs/", "./src"]) := by
    have hroots : rootsOf ["docs/", "./src"] = ["docs", "src"] := by decide
    rw [hroots]
    refine .inr ⟨by decide, fun root _ rel hmem => ?_⟩
    have hslash : ∀ r ∈ ["docs", "src"], '/' ∉ r.toList := by decide
    exact hslash _ hmem (by simp)
  have hpassing : listing.filter (fun path => decide (Passes ["docs/", "./src"]
      (.ofLists ["*.rs", "a.md"] [] ["b"]) path)) = ["src/api/x.rs", "docs/a.md"] := by decide
  refine ⟨hapart, ?_⟩
  rw [(select_eq_passing_iff ["docs/", "./src"]).2.1.1 hapart, passing, hpassing,
    mergeSort_eq_of_perm (.swap "docs/a.md" "src/api/x.rs" [])]
  exact List.mergeSort_of_pairwise (by decide)

/-- A file is missed that passes as it is called from the second of its roots, but not as it is
called from the first. -/
theorem select_misses_file : ¬ ∀ paths sourcePaths filter,
    select paths sourcePaths filter = passing paths sourcePaths filter := by
  intro h
  have hfile : "src/api/x.rs" ∈ passing listing ["src/api", "src"] (.ofLists ["api/*.rs"] [] []) :=
    mem_passing.2 (by decide)
  rw [← h, mem_select, ← any_relative?] at hfile
  exact absurd hfile.2 (by decide)

end RepositoryPaths

end ContextCompiler
