import Mathlib.Data.List.Lex
import Mathlib.Data.List.Nodup
import Mathlib.Data.List.Perm.Basic
import ContextCompiler.Render.Tree

/-!
The paths of a tree.

A tree holds, for each path that was put into it, all that the path starts with, and nothing else
(`mem_paths_insert`). Children stay in the order of their names, so the paths of a tree, each
segment before what is below it, are in lexicographic order (`IsSorted.pairwise_paths`). Different
paths may be put into a tree in either order (`insert_comm`).
-/

namespace ContextCompiler.Render

namespace PathTree

variable {t child : PathTree} {children rest : List (String × PathTree)} {name : String}
  {p q : List String} {size size' : Option Nat} {f g : PathTree → PathTree}

/-- What holds of every tree whose children have it holds of all trees. -/
@[elab_as_elim]
theorem induction {motive : PathTree → Prop}
    (node : ∀ size children, (∀ c ∈ children, motive c.2) → motive (.node size children))
    (t : PathTree) : motive t :=
  match t with
  | .node size children => node size children fun c hc =>
      have : sizeOf c < sizeOf children := List.sizeOf_lt_of_mem hc
      have : sizeOf c.2 < sizeOf c := by
        cases c
        simp only [Prod.mk.sizeOf_spec]
        omega
      induction node c.2
termination_by t
decreasing_by simp; omega

mutual

/-- The paths in a tree, each segment right before what is below it. -/
def paths : PathTree → List (List String)
  | .node _ children => childPaths children

/-- The paths in a list of children. -/
def childPaths : List (String × PathTree) → List (List String)
  | [] => []
  | (name, child) :: rest => [name] :: (paths child).map (name :: ·) ++ childPaths rest

end

theorem mem_childPaths : q ∈ childPaths children ↔
    ∃ c ∈ children, q = [c.1] ∨ ∃ r ∈ c.2.paths, q = c.1 :: r := by
  induction children with
  | nil => simp [childPaths]
  | cons c rest ih =>
    obtain ⟨name, child⟩ := c
    simp [childPaths, ih, or_assoc, eq_comm]

theorem ne_nil_of_mem_paths (h : q ∈ t.paths) : q ≠ [] := by
  obtain ⟨size, children⟩ := t
  rw [paths, mem_childPaths] at h
  obtain ⟨c, -, rfl | ⟨r, -, rfl⟩⟩ := h <;> exact List.cons_ne_nil _ _

/-! ## Putting paths into a tree -/

theorem mem_childPaths_updateChild {R : List String → Prop}
    (hf : ∀ t q, q ∈ (f t).paths ↔ q ∈ t.paths ∨ R q) :
    q ∈ childPaths (updateChild name f children) ↔
      q ∈ childPaths children ∨ q = [name] ∨ ∃ r, R r ∧ q = name :: r := by
  have hleaf : ∀ r, r ∈ (f leaf).paths ↔ R r := fun r => by simp [hf, leaf, paths, childPaths]
  fun_induction updateChild name f children with
  | case1 => simp [childPaths, hleaf, eq_comm]
  | case2 other child rest hlt =>
    rw [childPaths, List.cons_append, List.mem_cons, List.mem_append, List.mem_map]
    simp only [hleaf, eq_comm (a := q)]
    grind
  | case3 child rest hlt =>
    simp only [childPaths, List.cons_append, List.mem_cons, List.mem_append, List.mem_map, hf]
    grind
  | case4 other child rest hlt hne ih =>
    simp only [childPaths, List.cons_append, List.mem_cons, List.mem_append, List.mem_map, ih]
    grind

/-- A tree to which a path was added has the paths from before and what the new one starts with. -/
theorem mem_paths_insert :
    q ∈ (t.insert size p).paths ↔ q ∈ t.paths ∨ q ≠ [] ∧ q <+: p := by
  induction p generalizing t q with
  | nil =>
    obtain ⟨old, children⟩ := t
    simp +contextual [insert, paths]
  | cons name p ih =>
    obtain ⟨old, children⟩ := t
    rw [insert, paths, paths, mem_childPaths_updateChild (R := fun r => r ≠ [] ∧ r <+: p)
      fun t q => ih]
    refine or_congr_right ?_
    cases q with
    | nil => simp
    | cons n r =>
      simp only [List.cons.injEq, List.cons_prefix_cons]
      by_cases hr : r = []
      · simp [hr]
      · grind

/-- The paths of a tree that was put together are what the paths put into it start with. -/
theorem mem_paths_ofEntries {entries : List (String × Option Nat)} :
    q ∈ (ofEntries entries).paths ↔ q ≠ [] ∧ ∃ e ∈ entries, q <+: segments e.1 := by
  suffices hfold : ∀ t : PathTree,
      q ∈ (entries.foldl (fun t e => t.insert e.2 (segments e.1)) t).paths ↔
        q ∈ t.paths ∨ q ≠ [] ∧ ∃ e ∈ entries, q <+: segments e.1 by
    refine (hfold leaf).trans (or_iff_right ?_)
    exact List.not_mem_nil
  induction entries with
  | nil => simp
  | cons e rest ih =>
    intro t
    rw [List.foldl_cons, ih, mem_paths_insert, List.exists_mem_cons_iff, and_or_left, or_assoc]

/-! ## The order of children -/

/-- Children are in the order of their names, all the way down. -/
inductive IsSorted : PathTree → Prop
  | node {size : Option Nat} {children : List (String × PathTree)} :
      children.Pairwise (fun a b => a.1 < b.1) → (∀ c ∈ children, IsSorted c.2) →
      IsSorted (.node size children)

/-- No segment has a size. -/
inductive IsBare : PathTree → Prop
  | node {children : List (String × PathTree)} :
      (∀ c ∈ children, IsBare c.2) → IsBare (.node none children)

theorem isSorted_leaf : IsSorted leaf := .node .nil fun _ h => absurd h List.not_mem_nil

theorem isBare_leaf : IsBare leaf := .node fun _ h => absurd h List.not_mem_nil

/-- What holds of children, and of what a child is made, holds of the children after a change. -/
theorem forall_mem_updateChild {P : PathTree → Prop} (hleaf : P leaf) (hf : ∀ t, P t → P (f t))
    (h : ∀ c ∈ children, P c.2) : ∀ c ∈ updateChild name f children, P c.2 := by
  fun_induction updateChild name f children with
  | case1 => exact List.forall_mem_singleton.2 (hf _ hleaf)
  | case2 other child rest hlt => exact List.forall_mem_cons.2 ⟨hf _ hleaf, h⟩
  | case3 child rest hlt =>
    obtain ⟨hchild, hrest⟩ := List.forall_mem_cons.1 h
    exact List.forall_mem_cons.2 ⟨hf _ hchild, hrest⟩
  | case4 other child rest hlt hne ih =>
    obtain ⟨hchild, hrest⟩ := List.forall_mem_cons.1 h
    exact List.forall_mem_cons.2 ⟨hchild, ih hrest⟩

theorem fst_of_mem_updateChild {c : String × PathTree} (h : c ∈ updateChild name f children) :
    c.1 = name ∨ ∃ d ∈ children, d.1 = c.1 := by
  fun_induction updateChild name f children with
  | case1 => exact .inl (by rw [List.mem_singleton.1 h])
  | case2 other child rest hlt =>
    rcases List.mem_cons.1 h with rfl | h
    · exact .inl rfl
    · exact .inr ⟨c, h, rfl⟩
  | case3 child rest hlt =>
    rcases List.mem_cons.1 h with rfl | h
    · exact .inl rfl
    · exact .inr ⟨c, List.mem_cons_of_mem _ h, rfl⟩
  | case4 other child rest hlt hne ih =>
    rcases List.mem_cons.1 h with rfl | h
    · exact .inr ⟨_, List.mem_cons_self, rfl⟩
    · exact (ih h).imp_right fun ⟨d, hd, hname⟩ => ⟨d, List.mem_cons_of_mem _ hd, hname⟩

theorem pairwise_updateChild (h : children.Pairwise fun a b => a.1 < b.1) :
    (updateChild name f children).Pairwise fun a b => a.1 < b.1 := by
  fun_induction updateChild name f children with
  | case1 => exact List.pairwise_singleton _ _
  | case2 other child rest hlt =>
    refine List.pairwise_cons.2 ⟨List.forall_mem_cons.2 ⟨hlt, fun c hc => ?_⟩, h⟩
    exact String.lt_trans hlt ((List.pairwise_cons.1 h).1 c hc)
  | case3 child rest hlt =>
    obtain ⟨hname, hrest⟩ := List.pairwise_cons.1 h
    exact List.pairwise_cons.2 ⟨hname, hrest⟩
  | case4 other child rest hlt hne ih =>
    obtain ⟨hother, hrest⟩ := List.pairwise_cons.1 h
    refine List.pairwise_cons.2 ⟨fun c hc => ?_, ih hrest⟩
    rcases fst_of_mem_updateChild hc with hname | ⟨d, hd, hname⟩
    · rw [hname]
      rcases Std.lt_trichotomy name other with h' | h' | h'
      · exact absurd h' hlt
      · exact absurd h' hne
      · exact h'
    · rw [← hname]
      exact hother d hd

theorem IsSorted.insert (h : t.IsSorted) (size : Option Nat) (p : List String) :
    (t.insert size p).IsSorted := by
  induction p generalizing t with
  | nil =>
    obtain ⟨hnames, hchildren⟩ := h
    exact .node hnames hchildren
  | cons name p ih =>
    obtain ⟨hnames, hchildren⟩ := h
    exact .node (pairwise_updateChild hnames)
      (forall_mem_updateChild isSorted_leaf (fun _ => ih) hchildren)

theorem IsBare.insert (h : t.IsBare) (p : List String) : (t.insert none p).IsBare := by
  induction p generalizing t with
  | nil =>
    obtain ⟨hchildren⟩ := h
    exact .node hchildren
  | cons name p ih =>
    obtain ⟨hchildren⟩ := h
    exact .node (forall_mem_updateChild isBare_leaf (fun _ => ih) hchildren)

theorem isSorted_ofEntries (entries : List (String × Option Nat)) :
    (ofEntries entries).IsSorted :=
  List.foldlRecOn entries _ isSorted_leaf fun _ h e _ => h.insert e.2 _

theorem isBare_ofEntries {entries : List (String × Option Nat)} (h : ∀ e ∈ entries, e.2 = none) :
    (ofEntries entries).IsBare :=
  List.foldlRecOn entries _ isBare_leaf fun _ ht e he => h e he ▸ ht.insert _

theorem name_lt_of_pairwise (h : ((name, child) :: rest).Pairwise fun a b => a.1 < b.1)
    (hq : q ∈ childPaths rest) : ∃ n r, q = n :: r ∧ name < n := by
  obtain ⟨c, hc, hq⟩ := mem_childPaths.1 hq
  have hlt : name < c.1 := (List.pairwise_cons.1 h).1 c hc
  obtain rfl | ⟨r, -, rfl⟩ := hq
  · exact ⟨_, _, rfl, hlt⟩
  · exact ⟨_, _, rfl, hlt⟩

/-- The paths of a tree are in lexicographic order. -/
theorem IsSorted.pairwise_paths (h : t.IsSorted) : t.paths.Pairwise (· < ·) := by
  induction t using PathTree.induction with
  | node size children ih =>
    obtain ⟨hnames, hchildren⟩ := h
    rw [paths]
    induction children with
    | nil => exact .nil
    | cons c rest ihrest =>
      obtain ⟨name, child⟩ := c
      obtain ⟨ihchild, ihchildren⟩ := List.forall_mem_cons.1 ih
      obtain ⟨hchild, hsorted⟩ := List.forall_mem_cons.1 hchildren
      rw [childPaths, List.pairwise_append]
      refine ⟨?_, ihrest ihchildren (List.pairwise_cons.1 hnames).2 hsorted, fun a ha b hb => ?_⟩
      · refine List.pairwise_cons.2 ⟨fun b hb => ?_, ?_⟩
        · obtain ⟨r, hr, rfl⟩ := List.mem_map.1 hb
          obtain ⟨n, r, rfl⟩ := List.exists_cons_of_ne_nil (ne_nil_of_mem_paths hr)
          exact List.cons_lt_cons_iff.2 (.inr ⟨rfl, List.nil_lt_cons _ _⟩)
        · refine List.pairwise_map.2 ((ihchild hchild).imp fun hlt => ?_)
          exact List.cons_lt_cons_iff.2 (.inr ⟨rfl, hlt⟩)
      · obtain ⟨n, r, rfl, hlt⟩ := name_lt_of_pairwise hnames hb
        rcases List.mem_cons.1 ha with rfl | ha
        · exact List.cons_lt_cons_iff.2 (.inl hlt)
        · obtain ⟨r', -, rfl⟩ := List.mem_map.1 ha
          exact List.cons_lt_cons_iff.2 (.inl hlt)

/-! ## Paths in another order -/

theorem updateChild_updateChild : updateChild name f (updateChild name g children) =
    updateChild name (fun t => f (g t)) children := by
  fun_induction updateChild name g children with
  | case1 => simp [updateChild]
  | case2 other child rest hlt => simp [updateChild, hlt]
  | case3 child rest hlt => simp [updateChild]
  | case4 other child rest hlt hne ih => simp [updateChild, hlt, hne, ih]

theorem updateChild_comm {other : String} (hne : name ≠ other) :
    updateChild name f (updateChild other g children) =
      updateChild other g (updateChild name f children) := by
  induction children with
  | nil => grind [updateChild]
  | cons c rest ih => grind [updateChild]

/-- Different paths may be put into a tree in either order. -/
theorem insert_comm (h : p ≠ q) :
    (t.insert size p).insert size' q = (t.insert size' q).insert size p := by
  induction p generalizing t q with
  | nil =>
    obtain ⟨old, children⟩ := t
    obtain ⟨n, q, rfl⟩ := List.exists_cons_of_ne_nil h.symm
    rfl
  | cons n p ih =>
    obtain ⟨old, children⟩ := t
    cases q with
    | nil => rfl
    | cons m q =>
      simp only [PathTree.insert]
      by_cases hname : n = m
      · subst hname
        have hne : p ≠ q := fun e => h (by rw [e])
        simp only [updateChild_updateChild, ih hne]
      · rw [updateChild_comm hname]

theorem ofEntries_perm {entries others : List (String × Option Nat)} (h : others.Perm entries)
    (hnodup : (entries.map fun e => segments e.1).Nodup) : ofEntries others = ofEntries entries := by
  refine (h.symm.foldl_eq' (fun e he e' he' t => ?_) leaf).symm
  by_cases heq : e = e'
  · rw [heq]
  · refine insert_comm fun hsegments => heq ?_
    exact List.inj_on_of_nodup_map hnodup he he' hsegments

end PathTree

end ContextCompiler.Render
