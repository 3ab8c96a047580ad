import Mathlib.Data.List.Nodup
import ContextCompiler.Proofs.Storage.Walk

/-!
Walks of bounded depth.

The bound on the levels plays no part in what a name stands for, so a bounded walk is the walk of
all levels without the files too far down. Where the tree has one entry for each place, no file is
met twice by the same names.
-/

namespace ContextCompiler

namespace Storage

variable {s : Storage} {enters : List String → Bool} {fuel d : Nat} {depth : Option Nat}
  {inside : List Place} {names : List String} {p : Place} {name path : String} {f : WalkedFile}

/-! ## How far down -/

/-- The names of a file on a walk go on from where the walk is. -/
theorem names_of_mem_walkDirectory (h : f ∈ s.walkDirectory enters fuel depth inside names p) :
    ∃ name below, f.names = names ++ name :: below := by
  induction fuel generalizing depth inside names p with
  | zero => cases h
  | succ fuel ih =>
    by_cases hdepth : depth = some 0
    · rw [hdepth] at h
      cases h
    · rw [walkDirectory_succ hdepth, List.mem_flatMap] at h
      obtain ⟨name, -, h⟩ := h
      obtain hnames | ⟨q, -, hq⟩ := Met.mem_files h
      · exact ⟨name, [], hnames⟩
      · obtain ⟨next, below, hnames⟩ := ih hq
        exact ⟨name, next :: below, by rw [hnames, List.append_assoc, List.singleton_append]⟩

theorem length_lt_of_mem_walkDirectory
    (h : f ∈ s.walkDirectory enters fuel depth inside names p) : names.length < f.names.length := by
  obtain ⟨name, below, hnames⟩ := names_of_mem_walkDirectory h
  rw [hnames, List.length_append, List.length_cons]
  omega

/-! ## Bounds -/

/-- With a bound on the levels a walk meets the files not further down, in the same order. -/
theorem walkDirectory_some (d : Nat) :
    s.walkDirectory enters fuel (some d) inside names p =
      (s.walkDirectory enters fuel none inside names p).filter
        fun f => f.names.length ≤ names.length + d := by
  induction fuel generalizing d inside names p with
  | zero => rfl
  | succ fuel ih =>
    cases d with
    | zero =>
      refine (List.filter_eq_nil_iff.2 fun f hf => ?_).symm
      have hlength := length_lt_of_mem_walkDirectory hf
      simpa using hlength
    | succ d =>
      rw [walkDirectory_succ (by simp), walkDirectory_succ (by simp), List.filter_flatMap]
      congr 1
      funext name
      refine Met.filter_files (fun f hf => ?_) fun q => ?_
      · rw [hf, List.length_append, List.length_singleton]
        exact decide_eq_true (by omega)
      · show s.walkDirectory enters fuel (some d) _ _ q = _
        rw [ih]
        congr 1
        funext f
        rw [List.length_append, List.length_singleton, Nat.add_right_comm, Nat.add_assoc]

theorem walk_some (d : Nat) : s.walk enters (some d) path =
    (s.walk enters none path).filter fun f => f.names.length ≤ d := by
  unfold walk
  cases s.locate path with
  | error fault => rfl
  | ok p =>
    dsimp only
    cases s.get? p with
    | none => rfl
    | some e =>
      cases e with
      | link target => rfl
      | directory =>
        dsimp only
        rw [walkDirectory_some, List.length_nil]
        simp only [Nat.zero_add]
      | file bytes =>
        refine (List.filter_eq_self.2 fun f hf => ?_).symm
        rw [List.mem_singleton.1 hf]
        exact decide_eq_true (Nat.zero_le d)

/-! ## One entry for each place -/

theorem nodup_names (h : (s.entries.map Prod.fst).Nodup) (p : Place) : (s.names p).Nodup := by
  have hnames : s.names p = ((s.entries.map Prod.fst).filterMap fun q =>
      if q.length == p.length + 1 && q.dropLast == p then q.getLast? else none).mergeSort := by
    rw [List.filterMap_map]
    rfl
  rw [hnames, (List.mergeSort_perm _ _).nodup_iff]
  refine h.filterMap fun q q' name hq hq' => ?_
  have hplace : ∀ q : Place, (name ∈ if q.length == p.length + 1 && q.dropLast == p then q.getLast?
      else none) → q = p ++ [name] := by
    intro q hq
    split at hq
    · next hp =>
      rw [Bool.and_eq_true, beq_iff_eq, beq_iff_eq] at hp
      rw [← hp.2, List.dropLast_append_getLast? name hq]
    · cases hq
  rw [hplace q hq, hplace q' hq']

theorem nodup_walkDirectory (h : (s.entries.map Prod.fst).Nodup) :
    ((s.walkDirectory enters fuel depth inside names p).map WalkedFile.names).Nodup := by
  induction fuel generalizing depth inside names p with
  | zero => exact .nil
  | succ fuel ih =>
    by_cases hdepth : depth = some 0
    · rw [hdepth]
      exact .nil
    · rw [walkDirectory_succ hdepth, List.map_flatMap, List.nodup_flatMap]
      refine ⟨fun name _ => ?_, (nodup_names h p).imp fun {a b} hne => ?_⟩
      · cases s.met enters inside names p name with
        | nothing => exact .nil
        | file q bytes => exact List.nodup_singleton _
        | directory q => exact ih
      · -- what was met by different names has different names
        have hstart : ∀ {name below} {ns : List String}, ns ∈ (Met.files (fun q =>
            s.walkDirectory enters fuel (depth.map (· - 1)) (q :: inside) (names ++ [name]) q)
              (names ++ [name]) below).map WalkedFile.names → names ++ [name] <+: ns := by
          intro name below ns hns
          obtain ⟨f, hf, rfl⟩ := List.mem_map.1 hns
          obtain hf | ⟨q, -, hf⟩ := Met.mem_files hf
          · rw [hf]
          · obtain ⟨next, more, hf⟩ := names_of_mem_walkDirectory hf
            rw [hf]
            exact List.prefix_append _ _
        intro ns ha hb
        have heq := (List.prefix_of_prefix_length_le (hstart ha) (hstart hb) (by simp)).eq_of_length
          (by simp)
        exact hne (List.singleton_inj.1 (List.append_cancel_left heq))

theorem nodup_walk (h : (s.entries.map Prod.fst).Nodup) :
    ((s.walk enters depth path).map WalkedFile.names).Nodup := by
  unfold walk
  split
  · exact .nil
  · split
    · exact List.nodup_singleton _
    · exact nodup_walkDirectory h
    · exact .nil

end Storage

end ContextCompiler
