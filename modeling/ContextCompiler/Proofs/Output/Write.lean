import ContextCompiler.Output.OutputPath
import ContextCompiler.Proofs.Storage.Change
import ContextCompiler.Proofs.Storage.Directory

/-!
What writing a file leaves behind.

An output path is put under the output directory as names that lead straight down. Where no link
stands below that directory, a file that could be written is the one that the names lead to, and
every directory and link stands where it stood.
-/

namespace ContextCompiler

variable {s s' : Storage} {root path target content : String} {names : List String} {p r : Place}

/-! ## Names below a directory -/

namespace Output

/-- A path that leads from the output directory down along names. -/
structure IsTarget (root : String) (names : List String) (target : String) : Prop where
  ne_nil : names ≠ []
  isName : ∀ n ∈ names, Storage.IsName n ∧ '/' ∉ n.toList
  eq : target = Path.join root (Text.join "/" names)

theorem mem_of_partNames {ps : List Path.Part} (h : partNames path ps = .ok names) :
    ∀ n ∈ names, .name n ∈ ps := by
  fun_induction partNames path ps generalizing names with
  | case1 =>
    cases h
    exact fun _ hn => absurd hn List.not_mem_nil
  | case2 s rest ih =>
    obtain ⟨names', hrest, h⟩ := except_bind_eq_ok.1 h
    cases h
    intro n hn
    rcases List.mem_cons.1 hn with rfl | hn
    · exact List.mem_cons_self
    · exact List.mem_cons_of_mem _ (ih hrest n hn)
  | case3 rest ih => exact fun n hn => List.mem_cons_of_mem _ (ih h n hn)
  | case4 => cases h
  | case5 => cases h

/-- A document is put where the names of its path lead from the output directory. -/
theorem partNames_of_resolve (h : resolve root path = .ok target) :
    ∃ names, partNames path (Path.parts (Text.trim path)) = .ok names ∧
      IsTarget root names target := by
  rw [resolve, except_mapError_eq_ok] at h
  unfold place at h
  obtain ⟨-, h⟩ := except_check_eq_ok.1 h
  obtain ⟨names, hnames, h⟩ := except_bind_eq_ok.1 h
  obtain ⟨hne, h⟩ := except_check_eq_ok.1 h
  refine ⟨names, hnames, ?_, fun n hn => Path.isName_of_mem_parts (mem_of_partNames hnames n hn),
    (Except.ok.inj h).symm⟩
  rwa [List.isEmpty_iff] at hne

theorem isTarget_of_resolve (h : resolve root path = .ok target) :
    ∃ names, IsTarget root names target :=
  (partNames_of_resolve h).imp fun _ h => h.2

/-- The pieces of a target are those of the output directory and the names. -/
theorem IsTarget.split (h : IsTarget root names target) :
    Path.isAbsolute target = Path.isAbsolute root ∧
      Text.split '/' target = Path.directoryPieces root ++ names := by
  have hsplit : Text.split '/' (Text.join "/" names) = names := by
    have hslash : ∀ p ∈ names.map String.toList, '/' ∉ p := by
      intro p hp
      obtain ⟨n, hn, rfl⟩ := List.mem_map.1 hp
      exact (h.isName n hn).2
    rw [Text.split, Text.join, String.toList_ofList]
    refine (congrArg _ (Text.splitOn_joinWith (by simpa using h.ne_nil) hslash)).trans ?_
    rw [List.map_map]
    exact List.map_id'' (fun n => String.ofList_toList) names
  have hrelative : Path.isAbsolute (Text.join "/" names) = false := by
    rw [← Bool.not_eq_true]
    intro habs
    obtain ⟨pieces, hpieces, -⟩ := Path.split_of_isAbsolute habs
    rw [hsplit] at hpieces
    exact (h.isName "" (hpieces ▸ List.mem_cons_self)).1.1 rfl
  rw [h.eq]
  exact ⟨Path.isAbsolute_join_eq hrelative, by rw [Path.split_join hrelative, hsplit]⟩

end Output

namespace Storage

/-! ## Where the output directory is -/

/-- The place of the directory that paths are put under. -/
def directoryOf (s : Storage) (root : String) : Except StorageFault Place :=
  s.locate (Path.join root ".")

/-- No link stands below the place that `root` leads to, or will lead to when directories on its
way have been made. -/
def NoLinksBelow (s : Storage) (root : String) : Prop :=
  ∀ s' r, s.AddsDirectories s' → s'.directoryOf root = .ok r → s.Unlinked r

theorem directoryOf_eq_ok :
    s.directoryOf root = .ok r ↔ s.get? r = some .directory ∧
      ∃ left, s.Leads linkLimit (Path.directoryPieces root) (s.base root) left r := by
  have hsplit : Text.split '/' (Path.join root ".") = Path.directoryPieces root ++ ["."] := by
    rw [Path.split_join (by decide)]
    rfl
  have hne : Path.join root "." ≠ "" := fun h => by
    have hlast := congrArg List.getLast? hsplit
    rw [h, List.getLast?_concat] at hlast
    exact absurd hlast (by decide)
  rw [directoryOf, locate, if_neg (by simpa using hne), start_eq]
  dsimp only
  rw [hsplit, base, Path.isAbsolute_join_eq (by decide), ← base]
  constructor
  · intro h
    obtain ⟨left, hleads⟩ := leads_of_follow h
    obtain ⟨links, p, hp, hpoint⟩ := hleads.exists_of_append
    obtain rfl := hpoint.eq_of_idle (by simp)
    exact ⟨hpoint.directory, _, hp⟩
  · rintro ⟨hdir, left, hleads⟩
    exact (hleads.append_idle hdir (by simp)).follow

theorem Keeps.directoryOf (h : s.Keeps s') (hr : s.directoryOf root = .ok r) :
    s'.directoryOf root = .ok r := by
  obtain ⟨hdir, left, hleads⟩ := directoryOf_eq_ok.1 hr
  have hdir' := h.directory r hdir
  refine directoryOf_eq_ok.2 ⟨hdir', left, ?_⟩
  rw [h.base_eq]
  exact hleads.keep h (by rw [hdir']; rfl)

theorem noLinksBelow_iff (hr : s.directoryOf root = .ok r) :
    s.NoLinksBelow root ↔ s.Unlinked r := by
  refine ⟨fun h => h s r (.refl s) hr, fun h s' r' hadd hr' => ?_⟩
  cases (hadd.keeps.directoryOf hr).symm.trans hr'
  exact h

variable {front front' : List String} {bytes : List UInt8} {draft name name' : String}

/-- A file that was written in a directory and moved within it stands there under its new name. -/
theorem write_rename {dir : Place} (hwrite : s.write draft bytes = .ok s')
    {s'' : Storage} (hmove : s'.rename draft target = .ok s'')
    (hdraft : Text.split '/' draft = front ++ [name]) (hname : name ≠ "")
    (htarget : Text.split '/' target = front' ++ [name']) (hname' : name' ≠ "")
    (hfront' : s.follow true linkLimit front' (s.base target) = .ok dir)
    (hfront : s.follow true linkLimit front (s.base draft) = .ok dir)
    (hlinks : s.Unlinked dir) :
    s.Keeps s'' ∧ s''.get? (dir ++ [name']) = some (.file bytes) ∧
      name'.utf8ByteSize ≤ nameLimit := by
  obtain ⟨dir₁, hdir₁, hdir, -, hput⟩ := write_eq_ok hwrite hdraft
  cases hdir₁.symm.trans hfront
  obtain ⟨hne, rfl⟩ := hput (hlinks.ne_link _)
  have hkeeps : s.Keeps (s.put (dir ++ [name]) (.file bytes)) :=
    .put_file (by simp) hne (hlinks.ne_link _)
  obtain ⟨dir₂, dir₃, e, hdir₂, hdir₃, -, hsize, he, -, hne', hs''⟩ :=
    rename_eq_ok hmove hdraft hname htarget hname'
  obtain ⟨left, hleads⟩ := leads_of_follow hfront
  obtain ⟨left', hleads'⟩ := leads_of_follow hfront'
  have hsome : ((s.put (dir ++ [name]) (.file bytes)).get? dir).isSome := by
    rw [hkeeps.directory dir hdir]
    rfl
  cases hdir₂.symm.trans (hleads.keep hkeeps hsome).follow
  cases hdir₃.symm.trans (hleads'.keep hkeeps hsome).follow
  rw [get?_put (by simp), if_pos rfl] at he
  cases he
  rw [hs'']
  split
  · next heq =>
    rw [beq_iff_eq] at heq
    exact ⟨hkeeps, by rw [heq, get?_put (by simp), if_pos rfl], hsize⟩
  · refine ⟨hkeeps.trans (.move (by simp) ?_ (by simp) hne' ?_),
      by rw [get?_put (by simp), if_pos rfl], hsize⟩
    · rw [get?_put (by simp), if_pos rfl]
    · exact (hkeeps.unlinked_iff.2 hlinks).ne_link _

end Storage

namespace Output

/-! ## Targets -/

/-- Where a target leads, its names lead from the output directory. -/
theorem IsTarget.leads (h : IsTarget root names target) (hp : s.locate target = .ok p) :
    ∃ r links left, s.directoryOf root = .ok r ∧ s.Leads links names r left p := by
  obtain ⟨habs, hsplit⟩ := h.split
  unfold Storage.locate at hp
  split at hp
  · cases hp
  · rw [Storage.start_eq, hsplit, Storage.base, habs] at hp
    obtain ⟨left, hleads⟩ := Storage.leads_of_follow hp
    obtain ⟨links, r, hroot, hnames⟩ := hleads.exists_of_append
    obtain ⟨n, rest, rfl⟩ := List.exists_cons_of_ne_nil h.ne_nil
    exact ⟨r, links, left, Storage.directoryOf_eq_ok.2 ⟨hnames.directory, _, hroot⟩, hnames⟩

/-- Where no link stands below the output directory, a target leads straight down. -/
theorem IsTarget.eq_append (h : IsTarget root names target) (hr : s.directoryOf root = .ok r)
    (hlinks : s.Unlinked r) (hp : s.locate target = .ok p) :
    p = r ++ names ∧ (s.get? p).isSome := by
  obtain ⟨r', links, left, hr', hleads⟩ := h.leads hp
  cases hr.symm.trans hr'
  refine hleads.eq_append hlinks (fun n hn => (h.isName n hn).1) ?_
  rw [(Storage.directoryOf_eq_ok.1 hr).1]
  rfl

/-! ## Writing -/

/-- A file was written where `names` lead from the output directory, which is the place `r`, and
no other file changed. -/
structure Wrote (s : Storage) (root : String) (r : Place) (names : List String)
    (target content : String) (s' : Storage) : Prop where
  isTarget : IsTarget root names target
  keeps : s.Keeps s'
  changesOnly : s.ChangesOnly target s'
  directoryOf : s'.directoryOf root = .ok r
  unlinked : s'.Unlinked r
  locate : s'.locate target = .ok (r ++ names)
  get? : s'.get? (r ++ names) = some (.file (Text.utf8 content.toList))

/-- A file that could be written was written to the draft and moved. -/
theorem steps_of_write {parent : String} (h : write s target content = (s', .ok ()))
    (hparent : Path.parent? target = some parent) :
    ∃ s₁ s₂, s.AddsDirectories s₁ ∧
      s₁.write (draftPath parent target) (Text.utf8 content.toList) = .ok s₂ ∧
      s₂.rename (draftPath parent target) target = .ok s' := by
  unfold write at h
  rw [hparent] at h
  dsimp only at h
  split at h
  · cases h
  · next s₁ hmake =>
    split at h
    · cases h
    · next s₂ hwrite =>
      split at h
      · cases h
      · next s₃ hrename =>
        cases h
        refine ⟨s₁, s₂, ?_, hwrite, hrename⟩
        have := Storage.addsDirectories_makeDirectories ((Path.parts parent).length + 1) s parent
        rwa [← Storage.makeAllDirectories, hmake] at this

/-- The name of the draft of a file. -/
def draftName (name : String) : String := "." ++ name ++ ".tmp"

theorem length_draftName (name : String) : (draftName name).length = name.length + 5 := by
  have hpoint : ".".length = 1 := rfl
  have hend : ".tmp".length = 4 := rfl
  rw [draftName, String.length_append, String.length_append, hpoint, hend]
  omega

theorem isName_draftName (name : String) : Storage.IsName (draftName name) := by
  have hlength : 5 ≤ (draftName name).length := length_draftName name ▸ Nat.le_add_left _ _
  refine ⟨fun h => ?_, fun h => ?_, fun h => ?_⟩
  all_goals
    rw [h] at hlength
    exact absurd hlength (by decide)

/-- The draft of a target stands in its directory. -/
theorem split_draftPath (parent target : String) :
    Path.isAbsolute (draftPath parent target) = Path.isAbsolute parent ∧
      Text.split '/' (draftPath parent target) =
        Path.directoryPieces parent ++ [draftName ((Path.fileName? target).getD "output")] := by
  have hslash : '/' ∉ ((Path.fileName? target).getD "output").toList := by
    cases hname : Path.fileName? target with
    | none => decide
    | some name =>
      unfold Path.fileName? at hname
      split at hname
      · next hlast =>
        cases hname
        exact (Path.isName_of_mem_parts (List.mem_of_getLast? hlast)).2
      · cases hname
  have hdraft : '/' ∉ (draftName ((Path.fileName? target).getD "output")).toList := by
    simpa [draftName] using hslash
  have hrelative := Path.not_isAbsolute_of_not_mem hdraft
  refine ⟨Path.isAbsolute_join_eq hrelative, ?_⟩
  rw [draftPath, ← draftName, Path.split_join hrelative, Text.split_of_not_mem hdraft]

variable {front : List String} {name : String} {left : Nat} {dir : Place}

/-- The directory of a target, which the names before the last lead to. -/
theorem IsTarget.exists_directoryOf (ht : IsTarget root (front ++ [name]) target)
    (h : s.Leads Storage.linkLimit (Path.directoryPieces root ++ front) (s.base root) left dir)
    (hdir : s.get? dir = some .directory) :
    ∃ r, s.directoryOf root = .ok r ∧ (s.Unlinked r → dir = r ++ front) := by
  obtain ⟨links, r, hroot, hdown⟩ := h.exists_of_append
  have hr : s.get? r = some .directory := by
    cases front with
    | nil =>
      cases hdown
      exact hdir
    | cons n rest => exact hdown.directory
  refine ⟨r, Storage.directoryOf_eq_ok.2 ⟨hr, links, hroot⟩, fun hlinks => ?_⟩
  exact (hdown.eq_append hlinks (fun n hn => (ht.isName n (List.mem_append_left _ hn)).1)
    (by rw [hr]; rfl)).1

/-- A target leads to the file of its name in its directory. -/
theorem IsTarget.locate {bytes : List UInt8} (ht : IsTarget root (front ++ [name]) target)
    (h : s.Leads Storage.linkLimit (Path.directoryPieces root ++ front) (s.base root) left dir)
    (hdir : s.get? dir = some .directory) (hsize : name.utf8ByteSize ≤ Storage.nameLimit)
    (hget : s.get? (dir ++ [name]) = some (.file bytes)) :
    s.locate target = .ok (dir ++ [name]) := by
  obtain ⟨habs, hsplit⟩ := ht.split
  rw [← List.append_assoc] at hsplit
  have hname := (ht.isName name (List.mem_append_right _ List.mem_cons_self)).1
  have hbase : s.base target = s.base root := by rw [Storage.base, habs, Storage.base]
  exact Storage.locate_of_leads hsplit hname hsize (hbase ▸ h) hdir hget (by simp)

/-- A file that could be written is the one that its target leads to. -/
theorem exists_wrote (ht : IsTarget root names target) (hlinks : s.NoLinksBelow root)
    (h : write s target content = (s', .ok ())) (honly : s.ChangesOnly target s') :
    ∃ r, Wrote s root r names target content s' := by
  obtain ⟨front, name, rfl⟩ : ∃ front name, names = front ++ [name] :=
    ⟨_, _, (List.dropLast_append_getLast ht.ne_nil).symm⟩
  obtain ⟨habs, hsplit⟩ := ht.split
  rw [← List.append_assoc] at hsplit
  have hname := (ht.isName name (List.mem_append_right _ List.mem_cons_self)).1
  obtain ⟨parent, idle, hparent, hfront, hidle, hparentAbs⟩ := Path.parent?_eq_some hsplit hname
  obtain ⟨hdraftAbs, hdraftSplit⟩ := split_draftPath parent target
  have hbase : ∀ s : Storage, s.base (draftPath parent target) = s.base root ∧
      s.base target = s.base root := fun s => by
    simp only [Storage.base, hdraftAbs, hparentAbs, habs, and_self]
  obtain ⟨s₁, s₂, hadd, hwrite, hrename⟩ := steps_of_write h hparent
  -- the directory of the draft is that of the target
  obtain ⟨dir, hdir, hdirectory, -⟩ := Storage.write_eq_ok hwrite hdraftSplit
  rw [(hbase s₁).1] at hdir
  obtain ⟨left, hleads⟩ := Storage.leads_of_follow hdir
  have htarget := hleads.append_idle hdirectory hidle
  rw [← hfront] at htarget
  obtain ⟨r, hr, hdown⟩ := ht.exists_directoryOf htarget hdirectory
  have hunlinked := hadd.keeps.unlinked_iff.2 (hlinks s₁ r hadd hr)
  obtain rfl := hdown hunlinked
  obtain ⟨hkeeps, hget, hsize⟩ := Storage.write_rename hwrite hrename hdraftSplit
    (isName_draftName _).1 hsplit hname.1 (by rw [(hbase s₁).2]; exact htarget.follow)
    (by rw [(hbase s₁).1]; exact hdir)
    (hunlinked.of_prefix (List.prefix_append r front))
  have hdirectory' := hkeeps.directory _ hdirectory
  have htarget' := htarget.keep hkeeps (by rw [hdirectory']; rfl)
  rw [← hkeeps.base_eq] at htarget'
  refine ⟨r, ht, hadd.keeps.trans hkeeps, honly, hkeeps.directoryOf hr,
    hkeeps.unlinked_iff.2 hunlinked, ?_, List.append_assoc r front [name] ▸ hget⟩
  rw [← List.append_assoc]
  exact ht.locate htarget' hdirectory' hsize hget

namespace Wrote

variable {names' : List String} {target' : String}

theorem noLinksBelow (h : Wrote s root r names target content s') : s'.NoLinksBelow root :=
  (Storage.noLinksBelow_iff h.directoryOf).2 h.unlinked

/-- Where a target led before, it leads down from the output directory. -/
theorem eq_append (h : Wrote s root r names target content s')
    (ht : IsTarget root names' target') (hp : s.locate target' = .ok p) :
    p = r ++ names' ∧ (s.get? p).isSome := by
  obtain ⟨r', -, -, hr', -⟩ := ht.leads hp
  cases (h.keeps.directoryOf hr').symm.trans h.directoryOf
  exact ht.eq_append hr' (h.keeps.unlinked_iff.1 h.unlinked) hp

/-- What another target leads to stays there. -/
theorem get?_of_ne {e : Entry} (h : Wrote s root r names target content s')
    (ht : IsTarget root names' target') (hne : target' ≠ target)
    (hp : s.locate target' = .ok p) (he : s.get? p = some e) : s'.get? p = some e := by
  obtain ⟨rfl, -⟩ := h.eq_append ht hp
  have hnames : names' ≠ names := fun hnames => hne (by rw [ht.eq, h.isTarget.eq, hnames])
  cases e with
  | directory => exact h.keeps.directory _ he
  | link t => exact (h.keeps.link _ _).2 he
  | file bytes =>
    have hbytes := h.changesOnly (r ++ names') fun hlocate => hnames
      (List.append_cancel_left (Except.ok.inj (h.locate.symm.trans hlocate))).symm
    rw [Storage.bytes?, Storage.bytes?, he] at hbytes
    split at hbytes
    · next hget =>
      cases hbytes
      exact hget
    · cases hbytes

/-- A target leads where it led before, the written one too. -/
theorem locate_eq (h : Wrote s root r names target content s') (ht : IsTarget root names' target')
    (hp : s.locate target' = .ok p) : s'.locate target' = .ok p := by
  by_cases hne : target' = target
  · subst hne
    rw [(h.eq_append h.isTarget hp).1]
    exact h.locate
  · obtain ⟨e, he⟩ := Option.isSome_iff_exists.1 (h.eq_append ht hp).2
    refine h.keeps.locate hp ?_
    rw [h.get?_of_ne ht hne hp he]
    rfl

theorem entryAt (h : Wrote s root r names target content s') :
    s'.entryAt target = .ok (.file (Text.utf8 content.toList)) :=
  Storage.entryAt_eq_ok.2 ⟨_, h.locate, h.get?⟩

theorem entryAt_of_ne {e : Entry} (h : Wrote s root r names target content s')
    (ht : IsTarget root names' target') (hne : target' ≠ target)
    (he : s.entryAt target' = .ok e) : s'.entryAt target' = .ok e := by
  obtain ⟨p, hp, hget⟩ := Storage.entryAt_eq_ok.1 he
  exact Storage.entryAt_eq_ok.2 ⟨p, h.locate_eq ht hp, h.get?_of_ne ht hne hp hget⟩

end Wrote

end Output

end ContextCompiler
