import Mathlib.Data.List.Infix
import Mathlib.Data.List.Sort
import ContextCompiler.Proofs.Render.Tree
import ContextCompiler.Proofs.Text.Trim

/-!
Outlines and the paths they stand for.

An outline has a line for each path that an entry of the listing starts with, in lexicographic
order. What stands on a line is up to these paths alone (`lineOf`): whether others with the same
parent follow, for the path and for each segment over it, and whether there are paths below. The
depth and the name on each line are enough to have the paths back (`readTree`), whatever characters
the names are made of.
-/

namespace ContextCompiler.Render

variable {ps : List (List String)} {base q r : List String} {name : String}
  {entries others : List (String × Option Nat)}

/-! ## Lines -/

/-- No path with the same parent comes after a path. -/
def IsLast (ps : List (List String)) (q : List String) : Prop :=
  ∀ r ∈ ps, r.dropLast = q.dropLast → ¬ q < r

/-- Some path is right below a path. -/
def HasBelow (ps : List (List String)) (q : List String) : Prop := ∃ r ∈ ps, r.dropLast = q

instance : Decidable (IsLast ps q) := inferInstanceAs (Decidable (∀ r ∈ ps, _ → _))

instance : Decidable (HasBelow ps q) := inferInstanceAs (Decidable (∃ r ∈ ps, _))

/-- What stands in front of the lines right below a path: one step for each segment of it. -/
def indentSteps (ps : List (List String)) (q : List String) : List String :=
  q.inits.tail.map fun r => if IsLast ps r then "    " else "│   "

/-- The line of a path. -/
def lineOf (ps : List (List String)) (q : List String) : String :=
  String.join (indentSteps ps q.dropLast) ++ (if IsLast ps q then "└── " else "├── ") ++
    q.getLastD "" ++ (if HasBelow ps q then "/" else "")

theorem indentSteps_concat (ps : List (List String)) (base : List String) (name : String) :
    indentSteps ps (base ++ [name]) =
      indentSteps ps base ++ [if IsLast ps (base ++ [name]) then "    " else "│   "] := by
  have hne : base.inits ≠ [] := List.ne_nil_of_mem ((List.mem_inits _ _).2 List.nil_prefix)
  rw [indentSteps, List.inits_append, List.tail_append_of_ne_nil hne, List.map_append, indentSteps]
  simp

theorem length_indentSteps (ps : List (List String)) (q : List String) :
    (indentSteps ps q).length = q.length := by
  rw [indentSteps, List.length_map, List.length_tail, List.length_inits, Nat.add_sub_cancel]

theorem eq_of_mem_indentSteps {u : String} (h : u ∈ indentSteps ps q) : u = "    " ∨ u = "│   " := by
  obtain ⟨r, -, rfl⟩ := List.mem_map.1 h
  split
  · exact .inl rfl
  · exact .inr rfl

theorem concat_lt_concat {name' : String} : base ++ [name] < base ++ [name'] ↔ name < name' := by
  induction base with
  | nil => simp [List.cons_lt_cons_iff]
  | cons n base ih => rw [List.cons_append, List.cons_append, List.cons_lt_cons_self, ih]

/-! ## The lines of a tree -/

namespace PathTree

variable {t child : PathTree} {children before rest : List (String × PathTree)}

theorem singleton_mem_childPaths : [name] ∈ childPaths children ↔ ∃ c ∈ children, c.1 = name := by
  rw [mem_childPaths]
  refine exists_congr fun c => and_congr_right fun _ => ?_
  constructor
  · rintro (h | ⟨r, hr, h⟩)
    · exact (List.singleton_inj.1 h).symm
    · exact absurd (List.cons.inj h).2.symm (ne_nil_of_mem_paths hr)
  · rintro rfl
    exact .inl rfl

/-- Of children with different names, one holds the paths that start with its name. -/
theorem cons_mem_childPaths (h : children.Pairwise fun a b => a.1 < b.1)
    (hchild : (name, child) ∈ children) (hq : q ≠ []) :
    name :: q ∈ childPaths children ↔ q ∈ child.paths := by
  have hnodup : (children.map Prod.fst).Nodup := List.pairwise_map.2 (h.imp String.ne_of_lt)
  rw [mem_childPaths]
  constructor
  · rintro ⟨c, hc, hc' | ⟨r, hr, hc'⟩⟩
    · exact absurd (List.cons.inj hc').2 hq
    · obtain ⟨hname, rfl⟩ := List.cons.inj hc'
      obtain rfl := List.inj_on_of_nodup_map hnodup hc hchild hname.symm
      exact hr
  · intro hq
    exact ⟨_, hchild, .inr ⟨q, hq, rfl⟩⟩

theorem nameEnd_eq (h : t.IsBare) : nameEnd t = if t.paths = [] then "" else "/" := by
  obtain ⟨hchildren⟩ := h
  cases ‹List (String × PathTree)› with
  | nil => rfl
  | cons c rest => rw [if_neg (by simp [paths, childPaths])]; rfl

/-- A list of paths has those of a tree below `base`, and no others there. -/
def StandsBelow (ps : List (List String)) (base : List String) (t : PathTree) : Prop :=
  ∀ q, q ≠ [] → (base ++ q ∈ ps ↔ q ∈ t.paths)

theorem StandsBelow.of_mem {all : List (String × PathTree)} {size : Option Nat}
    (h : StandsBelow ps base (.node size all)) (hnames : all.Pairwise fun a b => a.1 < b.1)
    (hchild : (name, child) ∈ all) : StandsBelow ps (base ++ [name]) child := by
  intro q hq
  rw [List.append_assoc, h _ (by simp), paths]
  exact cons_mem_childPaths hnames hchild hq

theorem StandsBelow.isLast_iff {size : Option Nat}
    (h : StandsBelow ps base (.node size (before ++ (name, child) :: rest)))
    (hnames : (before ++ (name, child) :: rest).Pairwise fun a b => a.1 < b.1) :
    IsLast ps (base ++ [name]) ↔ rest = [] := by
  have hmem : ∀ n, base ++ [n] ∈ ps ↔ ∃ c ∈ before ++ (name, child) :: rest, c.1 = n := fun n => by
    rw [h _ (by simp), paths, singleton_mem_childPaths]
  obtain ⟨-, hrest, hbefore⟩ := List.pairwise_append.1 hnames
  constructor
  · intro hlast
    rw [List.eq_nil_iff_forall_not_mem]
    intro c hc
    refine hlast (base ++ [c.1]) ((hmem _).2 ⟨c, by simp [hc], rfl⟩) (by simp) (concat_lt_concat.2 ?_)
    exact (List.pairwise_cons.1 hrest).1 c hc
  · rintro rfl r hr hparent hbase
    have hne : r ≠ [] := fun e => by simp [e] at hbase
    rw [List.dropLast_concat] at hparent
    rw [← List.dropLast_append_getLast hne, hparent] at hr hbase
    obtain ⟨c, hc, hname⟩ := (hmem _).1 hr
    rw [← hname, concat_lt_concat] at hbase
    rcases List.mem_append.1 hc with hc | hc
    · exact String.lt_asymm hbase (hbefore c hc _ List.mem_cons_self)
    · rw [List.mem_singleton.1 hc] at hbase
      exact String.lt_irrefl _ hbase

theorem StandsBelow.hasBelow_iff (h : StandsBelow ps base t) (hbase : base ≠ []) :
    HasBelow ps base ↔ t.paths ≠ [] := by
  obtain ⟨size, children⟩ := t
  constructor
  · rintro ⟨r, hr, rfl⟩
    have hne : r ≠ [] := fun e => hbase (by rw [e]; rfl)
    refine List.ne_nil_of_mem ((h [r.getLast hne] (by simp)).1 ?_)
    rwa [List.dropLast_append_getLast]
  · cases children with
    | nil => exact fun hne => absurd rfl hne
    | cons c rest =>
      intro _
      refine ⟨base ++ [c.1], (h [c.1] (by simp)).2 ?_, List.dropLast_concat⟩
      exact singleton_mem_childPaths.2 ⟨c, List.mem_cons_self, rfl⟩

/-- The lines of a tree are those of its paths. -/
theorem treeLines_eq (hsorted : t.IsSorted) (hbare : t.IsBare) (hps : StandsBelow ps base t) :
    treeLines (String.join (indentSteps ps base)) t =
      t.paths.map fun q => lineOf ps (base ++ q) := by
  induction t using PathTree.induction generalizing base with
  | node size all ih =>
    obtain ⟨hnames, hsorted⟩ := hsorted
    obtain ⟨hbare⟩ := hbare
    -- the children that are left to write are the end of all of them
    suffices hlines : ∀ children before, before ++ children = all →
        childLines (String.join (indentSteps ps base)) children =
          (childPaths children).map fun q => lineOf ps (base ++ q) from hlines all [] rfl
    intro children
    induction children with
    | nil => exact fun _ _ => rfl
    | cons c rest ihrest =>
      obtain ⟨name, child⟩ := c
      rintro before rfl
      have hchild : (name, child) ∈ before ++ (name, child) :: rest := by simp
      have hbelow := hps.of_mem hnames hchild
      have hlast := hps.isLast_iff hnames
      have hline : String.join (indentSteps ps base) ++
          (if rest.isEmpty then "└── " else "├── ") ++ name ++ nameEnd child =
            lineOf ps (base ++ [name]) := by
        rw [lineOf, List.dropLast_concat, List.getLastD_concat, nameEnd_eq (hbare _ hchild)]
        simp only [List.isEmpty_iff, hlast, hbelow.hasBelow_iff (List.concat_ne_nil _ _), ite_not]
      have hindent : String.join (indentSteps ps base) ++
          (if rest.isEmpty then "    " else "│   ") =
            String.join (indentSteps ps (base ++ [name])) := by
        rw [indentSteps_concat, String.join_append]
        simp only [List.isEmpty_iff, hlast, String.join_cons, String.join_nil, String.append_empty]
      rw [childLines, hline, hindent, ih _ hchild (hsorted _ hchild) (hbare _ hchild) hbelow,
        ihrest (before ++ [(name, child)]) (by simp), childPaths]
      simp [List.map_append]

end PathTree

/-! ## Paths from lines -/

/-- The depth and the name on a line. -/
def readLine : List Char → Nat × List Char
  | '└' :: '─' :: '─' :: ' ' :: name => (0, Text.dropEndWhile (· == '/') name)
  | '├' :: '─' :: '─' :: ' ' :: name => (0, Text.dropEndWhile (· == '/') name)
  | _ :: _ :: _ :: _ :: line => ((readLine line).1 + 1, (readLine line).2)
  | _ => (0, [])

/-- The paths of lines that follow the line of a path. -/
def readLines : List String → List (List Char) → List (List String)
  | _, [] => []
  | path, line :: rest =>
    let path := path.take (readLine line).1 ++ [String.ofList (readLine line).2]
    path :: readLines path rest

/-- The paths of an outline. -/
def readTree (text : String) : List (List String) :=
  readLines [] ((Text.split '\n' text).dropLast.map String.toList)

/-- Paths in lexicographic order, each with all that it starts with. -/
structure IsOutline (ps : List (List String)) : Prop where
  sorted : ps.Pairwise (· < ·)
  ne_nil : [] ∉ ps
  closed : ∀ q ∈ ps, ∀ r, r ≠ [] → r <+: q → r ∈ ps

theorem readLine_steps {steps : List String} (h : ∀ u ∈ steps, u = "    " ∨ u = "│   ")
    (line : List Char) : readLine ((String.join steps).toList ++ line) =
      ((readLine line).1 + steps.length, (readLine line).2) := by
  induction steps with
  | nil => simp
  | cons u rest ih =>
    obtain ⟨hu, hrest⟩ := List.forall_mem_cons.1 h
    rw [String.join_cons, String.toList_append, List.append_assoc, List.length_cons]
    have hstep : ∀ cs, readLine (u.toList ++ cs) = ((readLine cs).1 + 1, (readLine cs).2) := by
      intro cs
      obtain rfl | rfl := hu <;> rfl
    rw [hstep, ih hrest, Nat.add_assoc]

theorem readLine_lineOf (h : '/' ∉ name.toList) :
    readLine (lineOf ps (base ++ [name])).toList = (base.length, name.toList) := by
  have hend : ∀ c ∈ (if HasBelow ps (base ++ [name]) then "/" else "").toList,
      (c == '/') = true := by
    intro c hc
    split at hc
    · rw [List.mem_singleton.1 hc]
      rfl
    · cases hc
  have hname : Text.dropEndWhile (· == '/') (name.toList ++
      (if HasBelow ps (base ++ [name]) then "/" else "").toList) = name.toList := by
    rw [Text.dropEndWhile_append hend]
    refine Text.dropEndWhile_eq_self fun c hc => beq_eq_false_iff_ne.2 ?_
    rintro rfl
    exact h (List.mem_of_getLast? hc)
  rw [lineOf, List.dropLast_concat, List.getLastD_concat, String.toList_append,
    String.toList_append, String.toList_append, List.append_assoc, List.append_assoc,
    readLine_steps fun _ => eq_of_mem_indentSteps, length_indentSteps]
  split
  · exact Prod.ext (Nat.zero_add _) hname
  · exact Prod.ext (Nat.zero_add _) hname

theorem prefix_of_le_of_lt {a : List String} (hle : r = a ∨ r < a) (hlt : a < r ++ [name]) :
    r <+: a := by
  induction r generalizing a with
  | nil => exact List.nil_prefix
  | cons n r ih =>
    cases a with
    | nil => simp at hle
    | cons m a =>
      rw [List.cons_append, List.cons_lt_cons_iff] at hlt
      rw [List.cons.injEq, List.cons_lt_cons_iff] at hle
      have hnm : n = m ∧ (r = a ∨ r < a) := by
        rcases hle with ⟨rfl, rfl⟩ | hlt' | ⟨rfl, hle⟩
        · exact ⟨rfl, .inl rfl⟩
        · rcases hlt with hlt | ⟨rfl, -⟩
          · exact absurd hlt (String.lt_asymm hlt')
          · exact absurd hlt' (String.lt_irrefl _)
        · exact ⟨rfl, .inr hle⟩
      obtain ⟨rfl, hrest⟩ := hnm
      have hlt := hlt.resolve_left (String.lt_irrefl _)
      exact List.cons_prefix_cons.2 ⟨rfl, ih hrest hlt.2⟩

/-- A path continues the parent of the next one. -/
theorem IsOutline.dropLast_prefix {front rest : List (List String)}
    (h : IsOutline (front ++ q :: rest)) : q.dropLast <+: front.getLastD [] := by
  have hmem : q ∈ front ++ q :: rest := by simp
  obtain ⟨base, name, rfl⟩ := (List.eq_nil_or_concat' q).resolve_left fun e => h.ne_nil (e ▸ hmem)
  rw [List.dropLast_concat]
  by_cases hbase : base = []
  · rw [hbase]
    exact List.nil_prefix
  obtain ⟨-, hrest, hfront⟩ := List.pairwise_append.1 h.sorted
  -- the parent stands before the path, so it is the last path before it or comes before that
  have hparent : base ∈ front := by
    have hlt : base ++ [] < base ++ [name] := List.append_left_lt (List.nil_lt_cons name [])
    rw [List.append_nil] at hlt
    rcases List.mem_append.1 (h.closed _ hmem base hbase (List.prefix_append _ _)) with hp | hp
    · exact hp
    · rcases List.mem_cons.1 hp with hp | hp
      · rw [← hp] at hlt
        exact absurd hlt (List.lt_irrefl _)
      · exact absurd hlt (List.lt_asymm ((List.pairwise_cons.1 hrest).1 base hp))
  obtain ⟨before, a, rfl⟩ :=
    (List.eq_nil_or_concat' front).resolve_left (List.ne_nil_of_mem hparent)
  rw [List.getLastD_concat]
  refine prefix_of_le_of_lt ?_ (hfront a (by simp) _ List.mem_cons_self)
  rcases List.mem_append.1 hparent with hp | hp
  · have hbefore := (List.pairwise_append.1 (List.pairwise_append.1 h.sorted).1).2.2
    exact .inr (hbefore base hp a List.mem_cons_self)
  · exact .inl (List.mem_singleton.1 hp)

theorem IsOutline.readLines_eq {front rest : List (List String)} (h : IsOutline (front ++ rest))
    (hslash : ∀ q ∈ rest, ∀ n ∈ q, '/' ∉ n.toList) :
    readLines (front.getLastD []) (rest.map fun q => (lineOf ps q).toList) = rest := by
  induction rest generalizing front with
  | nil => rfl
  | cons q rest ih =>
    have hparent := h.dropLast_prefix
    obtain ⟨hq, hrest⟩ := List.forall_mem_cons.1 hslash
    obtain ⟨base, name, rfl⟩ :=
      (List.eq_nil_or_concat' q).resolve_left fun e => h.ne_nil (by simp [e])
    rw [List.dropLast_concat] at hparent
    have hnext := @ih (front ++ [base ++ [name]]) (by simpa using h) hrest
    rw [List.getLastD_concat] at hnext
    rw [List.map_cons, readLines, readLine_lineOf (hq name (by simp))]
    dsimp only
    rw [← List.prefix_iff_eq_take.1 hparent, String.ofList_toList, hnext]

/-! ## Outlines of listings -/

/-- A path that some entry of a listing starts with. -/
def HasPrefix (entries : List (String × Option Nat)) (q : List String) : Prop :=
  q ≠ [] ∧ ∃ e ∈ entries, q <+: PathTree.segments e.1

/-- The entries of a listing have no sizes, and each path is on one line. -/
def IsPlain (entries : List (String × Option Nat)) : Prop :=
  ∀ e ∈ entries, e.2 = none ∧ '\n' ∉ e.1.toList

theorem isOutline_paths (entries : List (String × Option Nat)) :
    IsOutline (PathTree.ofEntries entries).paths where
  sorted := (PathTree.isSorted_ofEntries entries).pairwise_paths
  ne_nil h := PathTree.ne_nil_of_mem_paths h rfl
  closed q hq r hr hrq := by
    obtain ⟨-, e, he, hqe⟩ := PathTree.mem_paths_ofEntries.1 hq
    exact PathTree.mem_paths_ofEntries.2 ⟨hr, e, he, hrq.trans hqe⟩

theorem mem_segments {path : String} (h : name ∈ PathTree.segments path) :
    '/' ∉ name.toList ∧ ('\n' ∉ path.toList → '\n' ∉ name.toList) := by
  obtain ⟨piece, hpiece, rfl⟩ := List.mem_map.1 (List.mem_of_mem_filter h)
  rw [String.toList_ofList]
  exact ⟨Text.not_mem_of_mem_splitOn hpiece,
    fun hpath hname => hpath (Text.mem_of_mem_splitOn hpiece hname)⟩

theorem HasPrefix.names (h : HasPrefix entries q) : ∀ n ∈ q,
    '/' ∉ n.toList ∧ (IsPlain entries → '\n' ∉ n.toList) := by
  obtain ⟨-, e, he, hqe⟩ := h
  intro n hn
  obtain ⟨hslash, hfeed⟩ := mem_segments (hqe.subset hn)
  exact ⟨hslash, fun hplain => hfeed (hplain e he).2⟩

theorem renderTree_eq (h : IsPlain entries) : renderTree entries =
    String.join ((PathTree.ofEntries entries).paths.map fun q =>
      lineOf (PathTree.ofEntries entries).paths q ++ "\n") := by
  have hbelow : PathTree.StandsBelow (PathTree.ofEntries entries).paths []
      (PathTree.ofEntries entries) := fun q _ => by rw [List.nil_append]
  have hlines := PathTree.treeLines_eq (PathTree.isSorted_ofEntries entries)
    (PathTree.isBare_ofEntries fun e he => (h e he).1) hbelow
  have hempty : String.join (indentSteps (PathTree.ofEntries entries).paths []) = "" := rfl
  rw [hempty] at hlines
  rw [renderTree, hlines, List.map_map]
  rfl

theorem split_join_lines {lines : List String} (h : ∀ l ∈ lines, '\n' ∉ l.toList) :
    Text.split '\n' (String.join (lines.map (· ++ "\n"))) = lines ++ [""] := by
  induction lines with
  | nil => rfl
  | cons l rest ih =>
    obtain ⟨hl, hrest⟩ := List.forall_mem_cons.1 h
    have ih := ih hrest
    rw [Text.split] at ih
    rw [List.map_cons, String.join_cons, Text.split, String.toList_append, String.toList_append,
      List.append_assoc]
    show (Text.splitOn '\n'
      (l.toList ++ '\n' :: (String.join (rest.map (· ++ "\n"))).toList)).map String.ofList = _
    rw [Text.splitOn_append hl, List.map_cons, ih, String.ofList_toList, List.cons_append]

theorem feed_not_mem_lineOf (h : ∀ n ∈ q, '\n' ∉ n.toList) : '\n' ∉ (lineOf ps q).toList := by
  have hsteps : '\n' ∉ (String.join (indentSteps ps q.dropLast)).toList := by
    rw [String.toList_join, List.mem_flatMap]
    rintro ⟨u, hu, hfeed⟩
    obtain rfl | rfl := eq_of_mem_indentSteps hu
    · revert hfeed
      decide
    · revert hfeed
      decide
  have hname : '\n' ∉ (q.getLastD "").toList := by
    rcases List.eq_nil_or_concat' q with rfl | ⟨base, name, rfl⟩
    · exact List.not_mem_nil
    · rw [List.getLastD_concat]
      exact h name (by simp)
  have hbranch : '\n' ∉ (if IsLast ps q then "└── " else "├── ").toList := by
    split <;> decide
  have hend : '\n' ∉ (if HasBelow ps q then "/" else "").toList := by
    split <;> decide
  simp only [lineOf, String.toList_append, List.mem_append, hsteps, hbranch, hname, hend, or_self,
    not_false_eq_true]

theorem split_renderTree (h : IsPlain entries) : Text.split '\n' (renderTree entries) =
    (PathTree.ofEntries entries).paths.map (lineOf (PathTree.ofEntries entries).paths) ++ [""] := by
  have hlines : ∀ l ∈ (PathTree.ofEntries entries).paths.map
      (lineOf (PathTree.ofEntries entries).paths), '\n' ∉ l.toList := by
    intro l hl
    obtain ⟨q, hq, rfl⟩ := List.mem_map.1 hl
    exact feed_not_mem_lineOf fun n hn =>
      (HasPrefix.names (PathTree.mem_paths_ofEntries.1 hq) n hn).2 h
  rw [renderTree_eq h, ← split_join_lines hlines, List.map_map]
  rfl

/-- The paths of an outline can be read off it. -/
theorem readTree_renderTree (h : IsPlain entries) :
    readTree (renderTree entries) = (PathTree.ofEntries entries).paths := by
  rw [readTree, split_renderTree h, List.dropLast_concat, List.map_map]
  have houtline : IsOutline ([] ++ (PathTree.ofEntries entries).paths) := isOutline_paths entries
  exact houtline.readLines_eq fun q hq n hn =>
    (HasPrefix.names (PathTree.mem_paths_ofEntries.1 hq) n hn).1

theorem paths_eq_of_hasPrefix (h : ∀ q, HasPrefix others q ↔ HasPrefix entries q) :
    (PathTree.ofEntries others).paths = (PathTree.ofEntries entries).paths := by
  have : Std.Irrefl fun a b : List String => a < b := ⟨List.lt_irrefl⟩
  have : Std.Antisymm fun a b : List String => a < b :=
    ⟨fun a b hab hba => absurd hba (List.lt_asymm hab)⟩
  refine List.Pairwise.eq_of_mem_iff (isOutline_paths others).sorted
    (isOutline_paths entries).sorted fun q => ?_
  rw [PathTree.mem_paths_ofEntries, PathTree.mem_paths_ofEntries]
  exact h q

/-- An outline without sizes has a line for each path that an entry starts with, in lexicographic
order, and these paths can be read off it; so two outlines are the same exactly when their entries
start with the same paths. Different paths may be listed in any order, with sizes or without. -/
theorem renderTree_faithful (entries others : List (String × Option Nat)) :
    (IsPlain entries → ∃ ps, ps.Pairwise (· < ·) ∧ (∀ q, q ∈ ps ↔ HasPrefix entries q) ∧
      Text.split '\n' (renderTree entries) = ps.map (lineOf ps) ++ [""] ∧
      readTree (renderTree entries) = ps) ∧
    (IsPlain entries → IsPlain others →
      (renderTree others = renderTree entries ↔
        ∀ q, HasPrefix others q ↔ HasPrefix entries q)) ∧
    (others.Perm entries → (entries.map fun e => PathTree.segments e.1).Nodup →
      renderTree others = renderTree entries) := by
  refine ⟨fun h => ?_, fun hentries hothers => ⟨fun heq q => ?_, fun hsame => ?_⟩,
    fun hperm hnodup => ?_⟩
  · exact ⟨_, (isOutline_paths entries).sorted, fun q => PathTree.mem_paths_ofEntries,
      split_renderTree h, readTree_renderTree h⟩
  · have hpaths := congrArg readTree heq
    rw [readTree_renderTree hothers, readTree_renderTree hentries] at hpaths
    exact PathTree.mem_paths_ofEntries.symm.trans (hpaths ▸ PathTree.mem_paths_ofEntries)
  · rw [renderTree_eq hothers, renderTree_eq hentries, paths_eq_of_hasPrefix hsame]
  · rw [renderTree, renderTree, PathTree.ofEntries_perm hperm hnodup]

/-- Names that look like branches of the outline. -/
def branchNames : List (String × Option Nat) := [("a/└── b", none), ("│   c", none), ("./a//", none)]

theorem branchNames_faithful :
    readTree (renderTree branchNames) = [["a"], ["a", "└── b"], ["│   c"]] ∧
      (∀ q, q ∈ readTree (renderTree branchNames) ↔ HasPrefix branchNames q) ∧
      renderTree branchNames.reverse = renderTree branchNames ∧
      renderTree [("a/b", none)] ≠ renderTree branchNames := by
  have hplain : IsPlain branchNames := by
    simp only [IsPlain, branchNames]
    decide
  have hother : IsPlain [("a/b", none)] := by
    simp only [IsPlain]
    decide
  have hnodup : (branchNames.map fun e => PathTree.segments e.1).Nodup := by decide +kernel
  obtain ⟨hread, -, hperm⟩ := renderTree_faithful branchNames branchNames.reverse
  obtain ⟨-, hdiffer, -⟩ := renderTree_faithful branchNames [("a/b", none)]
  obtain ⟨ps, -, hmem, -, rfl⟩ := hread hplain
  refine ⟨by decide +kernel, hmem, hperm branchNames.reverse_perm hnodup, fun heq => ?_⟩
  -- the other outline has no line for a name that starts like a step
  have hc : HasPrefix branchNames ["│   c"] := (hmem _).1 (by decide +kernel)
  obtain ⟨-, e, he, hprefix⟩ := ((hdiffer hplain hother).1 heq _).2 hc
  rw [List.mem_singleton.1 he] at hprefix
  revert hprefix
  decide +kernel

end ContextCompiler.Render
