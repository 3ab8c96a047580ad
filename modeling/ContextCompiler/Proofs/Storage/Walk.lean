import Mathlib.Data.List.Nodup
import ContextCompiler.Proofs.Storage.Change
import ContextCompiler.Proofs.Storage.Leads
import ContextCompiler.Storage.Walk

/-!
What a walk meets.

On a walk each name stands for nothing, for a file, or for a directory that is walked through.
Below a place without links a walk meets the files whose directories it enters, all the way up to
where it starts. Every level on the way to a file has an entry of its own, so the bound on levels
is never reached.
-/

namespace ContextCompiler

namespace Place

variable {dir names : List String} {name : String}

/-- `dir` is on the way down along `names`, neither the start of it nor its end. -/
def IsOver (dir names : List String) : Prop := dir ≠ [] ∧ dir ≠ names ∧ dir <+: names

instance : Decidable (IsOver dir names) := inferInstanceAs (Decidable (_ ∧ _ ∧ _))

theorem not_isOver_singleton : ¬ IsOver dir [name] := by
  rintro ⟨hne, hlast, hprefix⟩
  obtain ⟨rest, rfl, hrest⟩ := (List.prefix_cons_iff.1 hprefix).resolve_left hne
  exact hlast (by rw [List.prefix_nil.1 hrest])

theorem isOver_cons_iff (hne : names ≠ []) : IsOver dir (name :: names) ↔
    dir = [name] ∨ ∃ rest, dir = name :: rest ∧ IsOver rest names := by
  unfold IsOver
  constructor
  · rintro ⟨hdir, hlast, hprefix⟩
    obtain ⟨rest, rfl, hrest⟩ := (List.prefix_cons_iff.1 hprefix).resolve_left hdir
    by_cases hnil : rest = []
    · exact .inl (by rw [hnil])
    · exact .inr ⟨rest, rfl, hnil, fun h => hlast (by rw [h]), hrest⟩
  · rintro (rfl | ⟨rest, rfl, hnil, hlast, hrest⟩)
    · exact ⟨by simp, by simpa using hne.symm, by simp⟩
    · exact ⟨by simp, by simpa using hlast, by simpa using hrest⟩

end Place

/-! ## What a walk meets -/

/-- What a name stands for on a walk. -/
inductive Met where
  | nothing
  | file (place : Place) (bytes : List UInt8)
  | directory (place : Place)

namespace Met

/-- The files of what was met, given those below a directory. -/
def files (below : Place → List WalkedFile) (names : List String) : Met → List WalkedFile
  | nothing => []
  | file q bytes => [⟨names, q, bytes⟩]
  | directory q => below q

variable {m : Met} {below below' : Place → List WalkedFile} {names : List String}
  {f : WalkedFile}

theorem mem_files (h : f ∈ m.files below names) :
    f.names = names ∨ ∃ q, m = directory q ∧ f ∈ below q := by
  cases m with
  | nothing => cases h
  | file q bytes => exact .inl (by rw [List.mem_singleton.1 h])
  | directory q => exact .inr ⟨q, rfl, h⟩

theorem filter_files {keep : WalkedFile → Bool} (hfile : ∀ f, f.names = names → keep f = true)
    (hbelow : ∀ q, below' q = (below q).filter keep) :
    m.files below' names = (m.files below names).filter keep := by
  cases m with
  | nothing => rfl
  | file q bytes =>
    show [_] = [_].filter keep
    rw [List.filter_cons_of_pos (hfile _ rfl), List.filter_nil]
  | directory q => exact hbelow q

end Met

namespace Storage

variable {s : Storage} {names : List String} {p : Place} {name : String} {bytes : List UInt8}
  {enters : List String → Bool} {fuel : Nat} {depth : Option Nat} {inside : List Place}
  {f : WalkedFile}

theorem mem_names : name ∈ s.names p ↔ (s.get? (p ++ [name])).isSome := by
  rw [Storage.names, List.mem_mergeSort, List.mem_filterMap, get?_of_ne_nil (by simp),
    List.lookup_isSome_iff]
  refine exists_congr fun ⟨q, e⟩ => and_congr_right fun _ => ?_
  rw [beq_iff_eq]
  dsimp only
  split
  · next h =>
    rw [Bool.and_eq_true, beq_iff_eq, beq_iff_eq] at h
    refine ⟨fun hlast => ?_, fun heq => by rw [← heq, List.getLast?_concat]⟩
    rw [← h.2, List.dropLast_append_getLast? name hlast]
  · next h =>
    refine ⟨nofun, fun heq => absurd ?_ h⟩
    rw [← heq]
    simp

/-! ## Files below a place -/

/-- Names lead down from a place through directories to a file. -/
structure FileBelow (s : Storage) (p : Place) (names : List String) (bytes : List UInt8) :
    Prop where
  ne_nil : names ≠ []
  directory : ∀ dir, Place.IsOver dir names → s.get? (p ++ dir) = some .directory
  file : s.get? (p ++ names) = some (.file bytes)

theorem fileBelow_singleton :
    s.FileBelow p [name] bytes ↔ s.get? (p ++ [name]) = some (.file bytes) :=
  ⟨fun h => h.file, fun h => ⟨by simp, fun _ hdir => absurd hdir Place.not_isOver_singleton, h⟩⟩

theorem fileBelow_cons (hne : names ≠ []) : s.FileBelow p (name :: names) bytes ↔
    s.get? (p ++ [name]) = some .directory ∧ s.FileBelow (p ++ [name]) names bytes := by
  constructor
  · intro h
    refine ⟨h.directory _ ((Place.isOver_cons_iff hne).2 (.inl rfl)), hne, fun dir hdir => ?_, ?_⟩
    · rw [List.append_assoc]
      exact h.directory _ ((Place.isOver_cons_iff hne).2 (.inr ⟨dir, rfl, hdir⟩))
    · rw [List.append_assoc]
      exact h.file
  · rintro ⟨hname, h⟩
    refine ⟨by simp, fun dir hdir => ?_, ?_⟩
    · obtain rfl | ⟨rest, rfl, hrest⟩ := (Place.isOver_cons_iff hne).1 hdir
      · exact hname
      · have hget := h.directory rest hrest
        rwa [List.append_assoc] at hget
    · have hget := h.file
      rwa [List.append_assoc] at hget

/-- A file is not further down than there are entries: each level on the way has its own. -/
theorem FileBelow.length_le (h : s.FileBelow p names bytes) :
    names.length ≤ s.entries.length := by
  have hkey : ∀ n, n < names.length → p ++ names.take (n + 1) ∈ s.entries.map Prod.fst := by
    intro n hn
    have hsome : (s.get? (p ++ names.take (n + 1))).isSome := by
      by_cases hlast : names.take (n + 1) = names
      · rw [hlast, h.file]
        rfl
      · rw [h.directory _ ⟨by simp [h.ne_nil], hlast, List.take_prefix _ _⟩]
        rfl
    rw [get?_of_ne_nil (by simp [h.ne_nil]), List.lookup_isSome_iff] at hsome
    obtain ⟨⟨q, e⟩, hmem, heq⟩ := hsome
    rw [beq_iff_eq.1 heq]
    exact List.mem_map_of_mem hmem
  have hnodup : ((List.range names.length).map fun n => p ++ names.take (n + 1)).Nodup := by
    refine List.nodup_range.map_on fun m hm n hn heq => ?_
    rw [List.mem_range] at hm hn
    have hlength := congrArg List.length (List.append_cancel_left heq)
    rw [List.length_take, List.length_take] at hlength
    omega
  have hle := hnodup.length_le_of_subset fun q hq => by
    obtain ⟨n, hn, rfl⟩ := List.mem_map.1 hq
    exact hkey n (List.mem_range.1 hn)
  rwa [List.length_map, List.length_range, List.length_map] at hle

/-! ## Walks -/

/-- What a name in a directory stands for on a walk that is inside some directories. -/
def met (s : Storage) (enters : List String → Bool) (inside : List Place) (names : List String)
    (p : Place) (name : String) : Met :=
  let enter (q : Place) : Met := if enters (names ++ [name]) then .directory q else .nothing
  match s.get? (p ++ [name]) with
  | none => .nothing
  | some (.file bytes) => .file (p ++ [name]) bytes
  | some .directory => enter (p ++ [name])
  | some (.link target) =>
    let start : Place := if Path.isAbsolute target then [] else p
    match s.follow true (linkLimit - 1) (Text.split '/' target) start with
    | .error _ => .nothing
    | .ok q =>
      match s.get? q with
      | some (.file bytes) => .file q bytes
      | some .directory => if inside.contains q then .nothing else enter q
      | _ => .nothing

/-- A walk goes through the names of a directory. -/
theorem walkDirectory_succ (hdepth : depth ≠ some 0) :
    s.walkDirectory enters (fuel + 1) depth inside names p =
      (s.names p).flatMap fun name => (s.met enters inside names p name).files
        (fun q => s.walkDirectory enters fuel (depth.map (· - 1)) (q :: inside)
          (names ++ [name]) q) (names ++ [name]) := by
  rw [walkDirectory]
  case x_5 => exact hdepth
  congr 1
  funext name
  unfold met
  dsimp only
  cases s.get? (p ++ [name]) with
  | none => rfl
  | some e =>
    cases e with
    | file bytes => rfl
    | directory => dsimp only; split <;> rfl
    | link target =>
      dsimp only
      cases s.follow true (linkLimit - 1) (Text.split '/' target)
          (if Path.isAbsolute target then [] else p) with
      | error fault => rfl
      | ok q =>
        dsimp only
        cases s.get? q with
        | none => rfl
        | some e =>
          cases e with
          | file bytes => rfl
          | link target => rfl
          | directory =>
            dsimp only
            split
            · rfl
            · split <;> rfl

/-- One name on a walk stands for a file, or for a directory to walk through. -/
theorem mem_walkDirectory_succ (hlinks : s.Unlinked p) :
    f ∈ s.walkDirectory enters (fuel + 1) none inside names p ↔ ∃ name,
      (∃ bytes, s.get? (p ++ [name]) = some (.file bytes) ∧
        f = ⟨names ++ [name], p ++ [name], bytes⟩) ∨
      s.get? (p ++ [name]) = some .directory ∧ enters (names ++ [name]) = true ∧
        f ∈ s.walkDirectory enters fuel none ((p ++ [name]) :: inside) (names ++ [name])
          (p ++ [name]) := by
  rw [walkDirectory, List.mem_flatMap]
  case x_5 => exact nofun
  refine exists_congr fun name => ?_
  rw [mem_names]
  dsimp only
  cases hget : s.get? (p ++ [name]) with
  | none => simp
  | some e =>
    cases e with
    | file bytes => simp
    | directory => simp
    | link target => exact absurd hget (hlinks.ne_link _ _)

/-- A walk meets the files not too far down that are reached through directories it enters. -/
theorem mem_walkDirectory (hlinks : s.Unlinked p) :
    f ∈ s.walkDirectory enters fuel none inside names p ↔
      ∃ below bytes, s.FileBelow p below bytes ∧ below.length ≤ fuel ∧
        (∀ dir, Place.IsOver dir below → enters (names ++ dir) = true) ∧
        f = ⟨names ++ below, p ++ below, bytes⟩ := by
  induction fuel generalizing inside names p with
  | zero =>
    refine ⟨fun h => absurd h List.not_mem_nil, ?_⟩
    rintro ⟨below, bytes, hbelow, hlength, -⟩
    exact absurd (List.length_eq_zero_iff.1 (Nat.le_zero.1 hlength)) hbelow.ne_nil
  | succ fuel ih =>
    have hdown : ∀ name, s.Unlinked (p ++ [name]) := fun name =>
      hlinks.of_prefix (List.prefix_append _ _)
    rw [mem_walkDirectory_succ hlinks]
    constructor
    · rintro ⟨name, ⟨bytes, hget, rfl⟩ | ⟨hget, henter, h⟩⟩
      · exact ⟨[name], bytes, fileBelow_singleton.2 hget, by simp,
          fun _ hdir => absurd hdir Place.not_isOver_singleton, rfl⟩
      · obtain ⟨below, bytes, hbelow, hlength, henters, rfl⟩ := (ih (hdown name)).1 h
        refine ⟨name :: below, bytes, (fileBelow_cons hbelow.ne_nil).2 ⟨hget, hbelow⟩,
          Nat.succ_le_succ hlength, fun dir hdir => ?_, by simp⟩
        obtain rfl | ⟨rest, rfl, hrest⟩ := (Place.isOver_cons_iff hbelow.ne_nil).1 hdir
        · exact henter
        · have hrest := henters rest hrest
          rwa [List.append_assoc] at hrest
    · rintro ⟨below, bytes, hbelow, hlength, henters, rfl⟩
      obtain ⟨name, rest, rfl⟩ := List.exists_cons_of_ne_nil hbelow.ne_nil
      refine ⟨name, ?_⟩
      by_cases hrest : rest = []
      · subst hrest
        exact .inl ⟨bytes, hbelow.file, rfl⟩
      · obtain ⟨hget, hbelow⟩ := (fileBelow_cons hrest).1 hbelow
        refine .inr ⟨hget, henters _ ((Place.isOver_cons_iff hrest).2 (.inl rfl)),
          (ih (hdown name)).2 ⟨rest, bytes, hbelow, Nat.le_of_succ_le_succ hlength,
            fun dir hdir => ?_, by simp⟩⟩
        rw [List.append_assoc]
        exact henters _ ((Place.isOver_cons_iff hrest).2 (.inr ⟨dir, rfl, hdir⟩))

/-- A walk of all levels from a directory without links below. -/
theorem mem_walk {path : String} (hp : s.locate path = .ok p) (hdir : s.get? p = some .directory)
    (hlinks : s.Unlinked p) :
    f ∈ s.walk enters none path ↔ ∃ names bytes, s.FileBelow p names bytes ∧
      (∀ dir, Place.IsOver dir names → enters dir = true) ∧ f = ⟨names, p ++ names, bytes⟩ := by
  rw [walk, hp]
  dsimp only
  rw [hdir]
  dsimp only
  rw [mem_walkDirectory hlinks]
  refine exists_congr fun names => exists_congr fun bytes => and_congr_right fun hbelow => ?_
  have hlength := hbelow.length_le
  rw [and_iff_right (by omega)]
  rfl

end Storage

end ContextCompiler
