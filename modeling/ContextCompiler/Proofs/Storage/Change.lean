import ContextCompiler.Proofs.Except
import ContextCompiler.Proofs.Storage.Leads

/-!
Where paths lead when the tree changes.

On its way a path goes over directories and links alone. So a change that keeps them (`Keeps`)
leaves a path where it leads, as long as something stays there. To make directories, to write a
file and to move one are such changes.
-/

namespace ContextCompiler

namespace Storage

variable {s s' s'' : Storage} {links : Nat} {pieces front : List String} {p q r : Place} {e : Entry}
  {name path : String}

/-! ## Entries -/

theorem get?_of_ne_nil (hp : p ≠ []) : s.get? p = s.entries.lookup p := by
  rw [get?, if_neg (by rwa [List.isEmpty_iff])]

theorem lookup_map_put (entries : List (Place × Entry)) :
    (entries.map fun (k, old) => if k == p then (k, e) else (k, old)).lookup q =
      if q = p then (entries.lookup p).map fun _ => e else entries.lookup q := by
  induction entries with
  | nil => split <;> rfl
  | cons entry rest ih =>
    obtain ⟨k, old⟩ := entry
    rw [List.map_cons]
    dsimp only
    by_cases hk : k = p
    · rw [if_pos (beq_iff_eq.2 hk), List.lookup_cons, ih, hk]
      by_cases hq : q = p
      · simp [hq]
      · simp [List.lookup_cons, hq, beq_eq_false_iff_ne.2 hq]
    · rw [if_neg (by rwa [beq_iff_eq]), List.lookup_cons, ih]
      by_cases hq : q = p
      · simp [List.lookup_cons, hq, beq_eq_false_iff_ne.2 (Ne.symm hk)]
      · simp [List.lookup_cons, hq]

theorem lookup_filter_ne (entries : List (Place × Entry)) :
    (entries.filter fun (k, _) => k != p).lookup q =
      if q = p then none else entries.lookup q := by
  induction entries with
  | nil => split <;> rfl
  | cons entry rest ih =>
    obtain ⟨k, old⟩ := entry
    by_cases hk : k = p
    · subst hk
      rw [List.filter_cons_of_neg (by simp), ih]
      by_cases hq : q = k
      · simp [hq]
      · simp [List.lookup_cons, hq, beq_eq_false_iff_ne.2 hq]
    · rw [List.filter_cons_of_pos (by simpa using hk), List.lookup_cons, ih]
      by_cases hq : q = p
      · subst hq
        simp [beq_eq_false_iff_ne.2 (Ne.symm hk)]
      · simp [List.lookup_cons, hq]

/-- What stands in a place after something was put there or elsewhere. -/
theorem get?_put (hp : p ≠ []) : (s.put p e).get? q = if q = p then some e else s.get? q := by
  by_cases hq : q = []
  · subst hq
    rw [if_neg (Ne.symm hp)]
    rfl
  · rw [get?_of_ne_nil hq, get?_of_ne_nil hq, put]
    dsimp only
    split
    · next hsome =>
      obtain ⟨old, hold⟩ := Option.isSome_iff_exists.1 hsome
      rw [lookup_map_put, hold]
      rfl
    · next hnone =>
      rw [Option.not_isSome_iff_eq_none] at hnone
      rw [List.lookup_append]
      by_cases hqp : q = p
      · simp [hqp, hnone]
      · simp [hqp, List.lookup_cons, beq_eq_false_iff_ne.2 hqp]

theorem get?_remove (hp : p ≠ []) : (s.remove p).get? q = if q = p then none else s.get? q := by
  by_cases hq : q = []
  · subst hq
    rw [if_neg (Ne.symm hp)]
    rfl
  · rw [get?_of_ne_nil hq, get?_of_ne_nil hq, remove, lookup_filter_ne]

/-! ## Changes that keep the ways -/

/-- The directories and the links of a tree stand in another one, and no other links do. -/
structure Keeps (s s' : Storage) : Prop where
  workDir : s'.workDir = s.workDir
  directory : ∀ p, s.get? p = some .directory → s'.get? p = some .directory
  link : ∀ p t, s'.get? p = some (.link t) ↔ s.get? p = some (.link t)

theorem Keeps.trans (h : s.Keeps s') (h' : s'.Keeps s'') : s.Keeps s'' :=
  ⟨h'.workDir.trans h.workDir, fun p hp => h'.directory p (h.directory p hp),
    fun p t => (h'.link p t).trans (h.link p t)⟩

/-- A file may be put where neither a directory nor a link stands. -/
theorem Keeps.put_file {bytes : List UInt8} (hp : p ≠ []) (hdir : s.get? p ≠ some .directory)
    (hlink : ∀ t, s.get? p ≠ some (.link t)) : s.Keeps (s.put p (.file bytes)) where
  workDir := rfl
  directory q hq := by
    rwa [get?_put hp, if_neg fun e : q = p => hdir (e ▸ hq)]
  link q t := by
    rw [get?_put hp]
    split
    · next e => exact ⟨nofun, fun h => absurd (e ▸ h) (hlink t)⟩
    · rfl

/-- What is neither a directory nor a link may go. -/
theorem Keeps.remove (hp : p ≠ []) (hdir : s.get? p ≠ some .directory)
    (hlink : ∀ t, s.get? p ≠ some (.link t)) : s.Keeps (s.remove p) where
  workDir := rfl
  directory q hq := by
    rwa [get?_remove hp, if_neg fun e : q = p => hdir (e ▸ hq)]
  link q t := by
    rw [get?_remove hp]
    split
    · next e => exact ⟨nofun, fun h => absurd (e ▸ h) (hlink t)⟩
    · rfl

/-- A file may be moved to where neither a directory nor a link stands. -/
theorem Keeps.move {bytes : List UInt8} (hp : p ≠ []) (hfile : s.get? p = some (.file bytes))
    (hq : q ≠ []) (hdir : s.get? q ≠ some .directory) (hlink : ∀ t, s.get? q ≠ some (.link t)) :
    s.Keeps ((s.remove p).put q (.file bytes)) := by
  have hremove : s.Keeps (s.remove p) := .remove hp (by simp [hfile]) (by simp [hfile])
  refine hremove.trans (.put_file hq (fun h => ?_) fun t ht => hlink t ((hremove.link q t).1 ht))
  rw [get?_remove hp] at h
  split at h
  · cases h
  · exact hdir h

/-! ## Where paths lead afterwards -/

/-- A path leads where it led, as long as something stays there. -/
theorem Leads.keep {left : Nat} (h : s.Leads links pieces p left q) (hkeeps : s.Keeps s')
    (hq : (s'.get? q).isSome) : s'.Leads links pieces p left q := by
  induction h with
  | done => exact .done
  | idle hp hidle _ ih => exact .idle (hkeeps.directory _ hp) hidle (ih hq)
  | up hp _ ih => exact .up (hkeeps.directory _ hp) (ih hq)
  | link hp hname hsize hget _ ih =>
    exact .link (hkeeps.directory _ hp) hname hsize ((hkeeps.link _ _).2 hget) (ih hq)
  | enter hp hname hsize hget hlink h ih =>
    -- what stands at the next place is the end of the path, or else a directory
    cases h with
    | done =>
      obtain ⟨e, he⟩ := Option.isSome_iff_exists.1 hq
      refine .enter (hkeeps.directory _ hp) hname hsize he (fun t ht => ?_) .done
      rw [ht, hkeeps.link, hget] at he
      exact hlink t (Option.some.inj he)
    | idle hnext _ _ | up hnext _ | link hnext _ _ _ _ | enter hnext _ _ _ _ _ =>
      exact .enter (hkeeps.directory _ hp) hname hsize (hkeeps.directory _ hnext) nofun (ih hq)

theorem Keeps.unlinked_iff (h : s.Keeps s') : s'.Unlinked r ↔ s.Unlinked r :=
  forall₂_congr fun q t => by rw [h.link]

theorem Keeps.base_eq (h : s.Keeps s') (path : String) : s'.base path = s.base path := by
  rw [base, base, h.workDir]

theorem Keeps.locate (h : s.Keeps s') (hp : s.locate path = .ok p) (hget : (s'.get? p).isSome) :
    s'.locate path = .ok p := by
  unfold Storage.locate at hp ⊢
  split at hp
  · cases hp
  · next hne =>
    obtain ⟨left, hleads⟩ := leads_of_follow hp
    rw [if_neg hne, start_eq, h.base_eq]
    exact (hleads.keep h hget).follow

/-! ## Contents -/

theorem entryAt_eq_ok {e : Entry} :
    s.entryAt path = .ok e ↔ ∃ p, s.locate path = .ok p ∧ s.get? p = some e := by
  rw [entryAt, except_bind_eq_ok]
  refine exists_congr fun p => and_congr_right fun _ => ?_
  cases s.get? p with
  | none => exact ⟨nofun, nofun⟩
  | some e' => exact ⟨fun h => congrArg _ (Except.ok.inj h), fun h => by cases h; rfl⟩

theorem exists_entryAt (h : s.isThere path = true) : ∃ e, s.entryAt path = .ok e := by
  unfold isThere at h
  cases he : s.entryAt path with
  | error fault => simp [he, Except.toOption] at h
  | ok e => exact ⟨e, rfl⟩

theorem readBytes_of_entryAt {bytes : List UInt8} (h : s.entryAt path = .ok (.file bytes)) :
    s.readBytes path = .ok bytes := by
  rw [readBytes, h]
  rfl

/-- The bytes of the file in a place, if one stands there. -/
def bytes? (s : Storage) (p : Place) : Option (List UInt8) :=
  match s.get? p with
  | some (.file bytes) => some bytes
  | _ => none

/-- No file changes but the one that a path leads to in the end. -/
def ChangesOnly (s : Storage) (path : String) (s' : Storage) : Prop :=
  ∀ p, s'.locate path ≠ .ok p → s'.bytes? p = s.bytes? p

theorem changesOnly_put {bytes : List UInt8} (hp : p ≠ [])
    (h : (s.put p (.file bytes)).locate path = .ok p) :
    s.ChangesOnly path (s.put p (.file bytes)) := by
  intro q hq
  have hne : q ≠ p := fun e => hq (e ▸ h)
  rw [bytes?, bytes?, get?_put hp, if_neg hne]

/-! ## Making directories -/

/-- A tree with more directories, where nothing stood before. -/
structure AddsDirectories (s s' : Storage) : Prop where
  workDir : s'.workDir = s.workDir
  get? : ∀ p, s'.get? p = s.get? p ∨ s.get? p = none ∧ s'.get? p = some .directory

theorem AddsDirectories.refl (s : Storage) : s.AddsDirectories s := ⟨rfl, fun _ => .inl rfl⟩

theorem AddsDirectories.trans (h : s.AddsDirectories s') (h' : s'.AddsDirectories s'') :
    s.AddsDirectories s'' where
  workDir := h'.workDir.trans h.workDir
  get? p := by
    rcases h.get? p with hp | ⟨hnone, hdir⟩
    · rw [← hp]
      exact h'.get? p
    · rcases h'.get? p with hp | ⟨hnone', -⟩
      · exact .inr ⟨hnone, hp.trans hdir⟩
      · exact nomatch hnone'.symm.trans hdir

theorem AddsDirectories.keeps (h : s.AddsDirectories s') : s.Keeps s' where
  workDir := h.workDir
  directory p hp := by
    rcases h.get? p with h | ⟨hnone, -⟩
    · exact h.trans hp
    · exact nomatch hnone.symm.trans hp
  link p t := by
    rcases h.get? p with h | ⟨hnone, hdir⟩
    · rw [h]
    · rw [hnone, hdir]
      exact ⟨nofun, nofun⟩

theorem AddsDirectories.put (hp : p ≠ []) (hnone : s.get? p = none) :
    s.AddsDirectories (s.put p .directory) where
  workDir := rfl
  get? q := by
    rw [get?_put hp]
    split
    · next e => exact .inr ⟨e ▸ hnone, rfl⟩
    · exact .inl rfl

theorem addsDirectories_of_makeDirectory (h : s.makeDirectory path = .ok s') :
    s.AddsDirectories s' := by
  unfold makeDirectory at h
  obtain ⟨-, h⟩ := except_check_eq_ok.1 h
  dsimp only at h
  split at h
  · cases h
  · obtain ⟨dir, -, h⟩ := except_bind_eq_ok.1 h
    obtain ⟨-, h⟩ := except_check_eq_ok.1 h
    obtain ⟨-, h⟩ := except_check_eq_ok.1 h
    obtain ⟨-, h⟩ := except_check_eq_ok.1 h
    split at h
    · cases h
    · next hnone =>
      cases h
      exact .put (by simp) hnone

theorem addsDirectories_makeDirectories (fuel : Nat) (s : Storage) (path : String) :
    s.AddsDirectories (s.makeDirectories fuel path).1 := by
  fun_induction s.makeDirectories fuel path with
  | case1 => exact .refl s
  | case2 => exact .refl s
  | case3 _ _ _ s' h => exact addsDirectories_of_makeDirectory h
  | case4 => exact .refl s
  | case5 _ _ _ _ _ _ s' _ hrest ih => rwa [hrest] at ih
  | case6 _ _ _ _ _ _ s' hrest s'' h ih =>
    rw [hrest] at ih
    exact ih.trans (addsDirectories_of_makeDirectory h)
  | case7 _ _ _ _ _ _ _ s' hrest _ _ ih => rwa [hrest] at ih
  | case8 => exact .refl s

/-! ## Writing and moving files -/

theorem withoutIdleEnd_concat (hname : name ≠ "") :
    withoutIdleEnd (front ++ [name]) = front ++ [name] := by
  simp [withoutIdleEnd, hname]

/-- Of the pieces of a path only empty ones at its end are left out. -/
theorem exists_of_withoutIdleEnd (h : (withoutIdleEnd pieces).reverse = name :: front) :
    ∃ idle, pieces = front.reverse ++ name :: idle ∧ name ≠ "" ∧ (∀ n ∈ idle, n = "") ∧
      (withoutIdleEnd pieces).length + idle.length = pieces.length := by
  have hdrop : pieces.reverse.dropWhile (fun piece => piece == "") = name :: front := by
    rw [withoutIdleEnd, List.reverse_reverse] at h
    exact h
  have hsplit : pieces.reverse.takeWhile (fun piece => piece == "") ++ name :: front =
      pieces.reverse := hdrop ▸ List.takeWhile_append_dropWhile
  refine ⟨(pieces.reverse.takeWhile fun piece => piece == "").reverse, ?_, fun hname => ?_,
    fun n hn => ?_, ?_⟩
  · rw [← List.reverse_inj, ← hsplit]
    simp [hsplit]
  · have hhead := List.head?_dropWhile_not (fun piece => piece == "") pieces.reverse
    rw [hdrop, hname] at hhead
    exact absurd hhead (by simp)
  · exact beq_iff_eq.1 (List.all_eq_true.1 List.all_takeWhile n (List.mem_reverse.1 hn))
  · have hlength := congrArg List.length hsplit
    rw [← List.length_reverse, h, List.length_reverse, ← pieces.length_reverse, ← hlength,
      List.length_append, Nat.add_comm]

/-- Where nothing leads elsewhere, a file is written in the directory that the path leads to. -/
theorem write_eq_ok {bytes : List UInt8} (h : s.write path bytes = .ok s')
    (hsplit : Text.split '/' path = front ++ [name]) :
    ∃ dir, s.follow true linkLimit front (s.base path) = .ok dir ∧
      s.get? dir = some .directory ∧ name.utf8ByteSize ≤ nameLimit ∧
      ((∀ t, s.get? (dir ++ [name]) ≠ some (.link t)) →
        s.get? (dir ++ [name]) ≠ some .directory ∧ s' = s.put (dir ++ [name]) (.file bytes)) := by
  unfold write at h
  obtain ⟨-, h⟩ := except_check_eq_ok.1 h
  dsimp only at h
  obtain ⟨place, hplace, h⟩ := except_bind_eq_ok.1 h
  rw [start, hsplit, locateNew, List.reverse_concat] at hplace
  obtain ⟨dir, hdir, hplace⟩ := except_bind_eq_ok.1 hplace
  obtain ⟨hp, hplace⟩ := except_check_eq_ok.1 hplace
  obtain ⟨-, hplace⟩ := except_check_eq_ok.1 hplace
  obtain ⟨-, hplace⟩ := except_check_eq_ok.1 hplace
  obtain ⟨hsize, hplace⟩ := except_check_eq_ok.1 hplace
  rw [List.reverse_reverse] at hdir
  rw [bne_iff_ne, not_not] at hp
  refine ⟨dir, hdir, hp, Nat.not_lt.1 hsize, fun hlink => ?_⟩
  split at hplace
  · next t ht => exact absurd ht (hlink t)
  · cases hplace
    split at h
    · cases h
    · next hne =>
      cases h
      exact ⟨hne, rfl⟩

theorem locateLast_eq_ok {dir : Place} {name' : String} {slash : Bool}
    (h : s.locateLast path = .ok (dir, name', slash))
    (hsplit : Text.split '/' path = front ++ [name]) (hname : name ≠ "") :
    s.follow true linkLimit front (s.base path) = .ok dir ∧ s.get? dir = some .directory ∧
      name' = name := by
  unfold locateLast at h
  dsimp only at h
  rw [start, hsplit, withoutIdleEnd_concat hname, List.reverse_concat] at h
  obtain ⟨dir', hdir, h⟩ := except_bind_eq_ok.1 h
  obtain ⟨hp, h⟩ := except_check_eq_ok.1 h
  rw [List.reverse_reverse] at hdir
  rw [bne_iff_ne, not_not] at hp
  cases h
  exact ⟨hdir, hp, rfl⟩

theorem locateLast_of_follow {dir : Place} (hsplit : Text.split '/' path = front ++ [name])
    (hname : name ≠ "") (hdir : s.follow true linkLimit front (s.base path) = .ok dir)
    (hp : s.get? dir = some .directory) : s.locateLast path = .ok (dir, name, false) := by
  unfold locateLast
  rw [start_eq]
  dsimp only
  rw [hsplit, withoutIdleEnd_concat hname, List.reverse_concat]
  dsimp only
  rw [List.reverse_reverse]
  refine except_bind_eq_ok.2 ⟨dir, hdir, except_check_eq_ok.2 ⟨by simp [hp], ?_⟩⟩
  rw [decide_eq_false (Nat.lt_irrefl _)]
  rfl

/-- What a file is moved to is the file, and nothing is left where it was. -/
theorem rename_eq_ok {old new name' : String} {front' : List String}
    (h : s.rename old new = .ok s')
    (hold : Text.split '/' old = front ++ [name]) (hname : name ≠ "")
    (hnew : Text.split '/' new = front' ++ [name']) (hname' : name' ≠ "") :
    ∃ dir dir' e, s.follow true linkLimit front (s.base old) = .ok dir ∧
      s.follow true linkLimit front' (s.base new) = .ok dir' ∧
      s.get? dir' = some .directory ∧ name'.utf8ByteSize ≤ nameLimit ∧
      s.get? (dir ++ [name]) = some e ∧ e ≠ .directory ∧
      s.get? (dir' ++ [name']) ≠ some .directory ∧
      s' = if dir' ++ [name'] == dir ++ [name] then s
        else (s.remove (dir ++ [name])).put (dir' ++ [name']) e := by
  unfold rename at h
  obtain ⟨⟨dir, n, slash⟩, hdir, h⟩ := except_bind_eq_ok.1 h
  obtain ⟨⟨dir', n', slash'⟩, hdir', h⟩ := except_bind_eq_ok.1 h
  obtain ⟨hdir, -, rfl⟩ := locateLast_eq_ok hdir hold hname
  obtain ⟨hdir', hp, rfl⟩ := locateLast_eq_ok hdir' hnew hname'
  obtain ⟨-, h⟩ := except_check_eq_ok.1 h
  obtain ⟨hsize, h⟩ := except_check_eq_ok.1 h
  rw [Bool.or_eq_true, not_or, decide_eq_true_iff, decide_eq_true_iff] at hsize
  dsimp only at h
  split at h
  · cases h
  · cases h
  · next e hne he =>
    obtain ⟨-, h⟩ := except_check_eq_ok.1 h
    refine ⟨dir, dir', e, hdir, hdir', hp, Nat.not_lt.1 hsize.2, he, hne, ?_⟩
    split at h
    · cases h
    · next hne' =>
      refine ⟨hne', ?_⟩
      split at h
      · next heq =>
        rw [if_pos heq]
        exact (Except.ok.inj h).symm
      · next heq =>
        rw [if_neg heq]
        exact (Except.ok.inj h).symm

/-- Only to a name is a file moved. -/
theorem exists_name_of_rename {old new : String} (h : s.rename old new = .ok s') :
    ∃ front name, Text.split '/' new = front ++ [name] ∧ IsName name := by
  unfold rename at h
  obtain ⟨⟨dir, n, slash⟩, -, h⟩ := except_bind_eq_ok.1 h
  obtain ⟨⟨dir', n', slash'⟩, hlast, h⟩ := except_bind_eq_ok.1 h
  obtain ⟨hnames, h⟩ := except_check_eq_ok.1 h
  obtain ⟨-, h⟩ := except_check_eq_ok.1 h
  have hslash : slash' = false := by
    dsimp only at h
    split at h
    · cases h
    · cases h
    · rw [← Bool.not_eq_true]
      exact fun hs => (except_check_eq_ok.1 h).1 (by simp [hs])
  unfold locateLast at hlast
  rw [start_eq] at hlast
  dsimp only at hlast
  split at hlast
  · cases hlast
  · next name front hpieces =>
    obtain ⟨_, -, hlast⟩ := except_bind_eq_ok.1 hlast
    obtain ⟨-, hlast⟩ := except_check_eq_ok.1 hlast
    cases hlast
    obtain ⟨idle, hsplit, hne, -, hlength⟩ := exists_of_withoutIdleEnd hpieces
    -- no slash follows the name, so that nothing was left out
    obtain rfl : idle = [] := by
      rw [decide_eq_false_iff_not] at hslash
      rw [← List.length_eq_zero_iff]
      omega
    refine ⟨_, _, hsplit, hne, fun e => ?_, fun e => ?_⟩
    · simp [e] at hnames
    · simp [e] at hnames

/-- A file in a directory cannot be moved to a name only because a directory has the name. -/
theorem get?_of_rename_eq_error {old new name' : String} {front' : List String} {dir dir' : Place}
    {bytes : List UInt8} {fault : StorageFault} (h : s.rename old new = .error fault)
    (hold : Text.split '/' old = front ++ [name]) (hname : IsName name)
    (hsize : name.utf8ByteSize ≤ nameLimit)
    (hnew : Text.split '/' new = front' ++ [name']) (hname' : IsName name')
    (hsize' : name'.utf8ByteSize ≤ nameLimit)
    (hdir : s.follow true linkLimit front (s.base old) = .ok dir)
    (hp : s.get? dir = some .directory)
    (hdir' : s.follow true linkLimit front' (s.base new) = .ok dir')
    (hp' : s.get? dir' = some .directory)
    (hfile : s.get? (dir ++ [name]) = some (.file bytes)) :
    s.get? (dir' ++ [name']) = some .directory := by
  unfold rename at h
  rw [locateLast_of_follow hold hname.1 hdir hp, locateLast_of_follow hnew hname'.1 hdir' hp'] at h
  by_contra hne
  have hnames : ([name, name'].any fun n => n == "." || n == "..") = false := by
    simp [hname.2.1, hname.2.2, hname'.2.1, hname'.2.2]
  have hsizes : ¬ (name.utf8ByteSize > nameLimit || name'.utf8ByteSize > nameLimit) = true := by
    simp [hsize, hsize']
  simp only [bind, Except.bind, hnames, Bool.false_eq_true, if_false, if_neg hsizes, hfile,
    Bool.or_self] at h
  split at h
  · cases h
  · cases h

end Storage

end ContextCompiler
