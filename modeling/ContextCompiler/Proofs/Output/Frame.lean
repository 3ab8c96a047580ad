import Mathlib
import ContextCompiler.Proofs.Output.Write
import ContextCompiler.Proofs.Storage.Made

/-!
What writing a file does to all other files.

A file goes through a draft beside it, whose name is made from the name of the file. `Ends` has the
three ways in which this comes to its end: the draft cannot be written, the draft stands there and
the target is refused, or the draft has taken the place of the target.

No other file is touched, but the draft is: a file that has its name is lost, and where the target
is refused the draft stays behind. `frame_of_write_ok` and `makesAbove_iff_of_write_error` say
exactly when that harms a file.
-/

namespace ContextCompiler

variable {s s' s₁ s₂ : Storage} {target parent path content name : String} {p q dir : Place}
  {e : Failure} {fault : StorageFault} {bytes : List UInt8}

/-! ## The paths of a draft -/

namespace Path

/-- Only from a lone slash is no slash dropped. -/
theorem eq_nil_of_dropIdleEnd_slash {n : Nat} {cs : List Char}
    (h : dropIdleEnd (n + 1) ('/' :: cs) = '/' :: cs) : cs = [] := by
  cases cs with
  | nil => rfl
  | cons d cs =>
    have hlength := (dropIdleEnd_suffix n (d :: cs)).length_le
    rw [dropIdleEnd.eq_3 _ _ (by simp)] at h
    rw [h, List.length_cons] at hlength
    omega

/-- A path does not lie in itself. -/
theorem parent?_ne (h : parent? path = some parent) : parent ≠ path := by
  rintro rfl
  unfold parent? at h
  split at h
  · cases h
  · cases h
  · next last hroot hlast =>
    have htext := congrArg List.reverse (congrArg String.toList (Option.some.inj h))
    rw [String.toList_ofList, List.reverse_reverse] at htext
    generalize hcs : parent.toList.reverse = cs at htext
    -- nothing is dropped at all
    have htrimmed := dropIdleEnd_suffix (cs.length + 1) cs
    have hfront := List.dropWhile_suffix (· != '/') (l := dropIdleEnd (cs.length + 1) cs)
    have hidle := htext ▸ dropIdleEnd_suffix _ _
    have hall := htrimmed.eq_of_length_le (hidle.length_le.trans hfront.length_le)
    rw [hall] at htext hfront hidle
    have hnone := hfront.eq_of_length_le hidle.length_le
    rw [hnone] at htext
    cases cs with
    | nil =>
      obtain rfl : parent = "" := String.toList_eq_nil_iff.1 (List.reverse_eq_nil_iff.1 hcs)
      cases hlast
    | cons c cs =>
      have hkept := List.dropWhile_eq_self_iff.1 hnone (Nat.succ_pos _)
      obtain rfl : c = '/' := not_not.1 (mt bne_iff_ne.2 hkept)
      obtain rfl := eq_nil_of_dropIdleEnd_slash htext
      obtain rfl : parent = "/" := String.toList_injective (List.reverse_injective hcs)
      exact hroot (Option.some.inj hlast).symm
end Path

namespace Output

/-- The draft of a target is not the target. -/
theorem draftPath_ne (parent target : String) : draftPath parent target ≠ target := by
  intro hsame
  obtain ⟨-, hsplit⟩ := split_draftPath parent target
  rw [hsame] at hsplit
  have hname : Path.fileName? target =
      some (draftName ((Path.fileName? target).getD "output")) := by
    conv_lhs => rw [Path.fileName?, Path.getLast?_parts hsplit (isName_draftName _)]
  have hlength := congrArg (fun name => (Option.getD name "output").length) hname
  dsimp only [Option.getD_some] at hlength
  rw [length_draftName] at hlength
  omega

/-- A draft lies where its directory lies. -/
theorem base_draftPath (s : Storage) (parent target : String) :
    s.base (draftPath parent target) = s.base parent := by
  rw [Storage.base, (split_draftPath parent target).1, Storage.base]

theorem draftName_ne (name : String) : draftName name ≠ name := fun hsame => by
  have hlength := length_draftName name
  rw [hsame] at hlength
  omega

/-- The path of the draft of a target leads to a place. -/
def IsDraft (s : Storage) (target : String) (p : Place) : Prop :=
  ∃ parent, Path.parent? target = some parent ∧ s.locate (draftPath parent target) = .ok p

theorem IsDraft.unique (hp : IsDraft s target p) (hq : IsDraft s target q) : p = q := by
  obtain ⟨parent, hparent, hlocate⟩ := hp
  obtain ⟨parent', hparent', hlocate'⟩ := hq
  cases hparent.symm.trans hparent'
  exact Except.ok.inj (hlocate.symm.trans hlocate')

end Output

/-! ## Bytes and changes -/

namespace Storage

theorem bytes?_put_file (hp : p ≠ []) :
    (s.put p (.file bytes)).bytes? q = if q = p then some bytes else s.bytes? q := by
  by_cases hq : q = p
  · rw [bytes?, get?_put hp, if_pos hq, if_pos hq]
  · rw [bytes?, get?_put hp, if_neg hq, if_neg hq, bytes?]

theorem bytes?_remove (hp : p ≠ []) :
    (s.remove p).bytes? q = if q = p then none else s.bytes? q := by
  by_cases hq : q = p
  · rw [bytes?, get?_remove hp, if_pos hq, if_pos hq]
  · rw [bytes?, get?_remove hp, if_neg hq, if_neg hq, bytes?]

theorem AddsDirectories.bytes?_eq (h : s.AddsDirectories s') (p : Place) :
    s'.bytes? p = s.bytes? p := by
  rw [bytes?, bytes?]
  rcases h.get? p with hp | ⟨hnone, hdir⟩
  · rw [hp]
  · rw [hnone, hdir]

/-- Nothing is added but directories that were missing above a path. -/
structure MakesAbove (s : Storage) (path : String) (s' : Storage) : Prop where
  workDir : s'.workDir = s.workDir
  get? : ∀ p, s'.get? p = s.get? p ∨ s.get? p = none ∧ s'.get? p = some .directory ∧
    ∃ dir, Path.Above dir path ∧ s'.locate dir = .ok p

namespace MakesAbove

theorem refl (s : Storage) (path : String) : s.MakesAbove path s := ⟨rfl, fun _ => .inl rfl⟩

theorem adds (h : s.MakesAbove path s') : s.AddsDirectories s' where
  workDir := h.workDir
  get? p := (h.get? p).imp_right fun ⟨hnone, hdir, _⟩ => ⟨hnone, hdir⟩

theorem of_makeAllDirectories (h : Path.parent? path = some parent) :
    s.MakesAbove path (s.makeAllDirectories parent).1 := by
  have hmakes := makesDirectories_makeDirectories ((Path.parts parent).length + 1) s parent
  refine ⟨hmakes.adds.workDir, fun p => ?_⟩
  refine (hmakes.adds.get? p).imp_right fun ⟨hnone, hdir⟩ => ⟨hnone, hdir, ?_⟩
  obtain ⟨dir, rfl | habove, hlocate⟩ := hmakes.made p hnone hdir
  · exact ⟨dir, .parent h, hlocate⟩
  · exact ⟨dir, .next h habove, hlocate⟩

/-- What stands in a place that a further change leaves alone. -/
theorem get?_of_eq (h : s.MakesAbove path s₁) (hkeeps : s₁.Keeps s₂)
    (hp : s₂.get? p = s₁.get? p) :
    s₂.get? p = s.get? p ∨ s.get? p = none ∧ s₂.get? p = some .directory ∧
      ∃ dir, Path.Above dir path ∧ s₂.locate dir = .ok p := by
  rw [hp]
  refine (h.get? p).imp_right fun ⟨hnone, hdir, dir, habove, hlocate⟩ => ?_
  exact ⟨hnone, hdir, dir, habove, hkeeps.locate hlocate (by rw [hp, hdir]; rfl)⟩

end MakesAbove

end Storage

namespace Output

open Storage (IsName linkLimit nameLimit)

/-! ## How a write ends -/

/-- How writing a text to a target can end in a tree without links: with the draft not written, with
the draft in its place, or with the text in the target. -/
inductive Ends (s : Storage) (target content : String) : Storage → Except Failure Unit → Prop
  | undrafted {s₁ : Storage} {e : Failure} : s.MakesAbove target s₁ →
      (∀ fault, e ≠ .storage target fault) → Ends s target content s₁ (.error e)
  | refused {s₁ s₂ : Storage} {draft : Place} {fault : StorageFault} :
      s.MakesAbove target s₁ → draft ≠ [] → s₁.get? draft ≠ some .directory →
      s₂ = s₁.put draft (.file (Text.utf8 content.toList)) → IsDraft s₂ target draft →
      (∀ front name, Text.split '/' target = front ++ [name] → IsName name →
        s₂.isDirectory target = true) →
      Ends s target content s₂ (.error (.storage target fault))
  | written {s₁ s₂ : Storage} {dir : Place} {name : String} : s.MakesAbove target s₁ →
      s₂ = ((s₁.put (dir ++ [draftName name]) (.file (Text.utf8 content.toList))).remove
        (dir ++ [draftName name])).put (dir ++ [name]) (.file (Text.utf8 content.toList)) →
      s₂.locate target = .ok (dir ++ [name]) →
      Ends s target content s₂ (.ok ())

/-- What is known of a draft that was written to the directory `dir`. -/
structure Drafted (s : Storage) (parent target : String) (bytes : List UInt8) (dir : Place)
    (s' : Storage) : Prop where
  follow : s.follow true linkLimit (Path.directoryPieces parent) (s.base parent) = .ok dir
  directory : s.get? dir = some .directory
  size : (draftName ((Path.fileName? target).getD "output")).utf8ByteSize ≤ nameLimit
  ne_directory : s.get? (dir ++ [draftName ((Path.fileName? target).getD "output")]) ≠
    some .directory
  keeps : s.Keeps s'
  eq : s' = s.put (dir ++ [draftName ((Path.fileName? target).getD "output")]) (.file bytes)

theorem exists_drafted (hlinks : s.Unlinked [])
    (hwrite : s.write (draftPath parent target) bytes = .ok s') :
    ∃ dir, Drafted s parent target bytes dir s' := by
  obtain ⟨dir, hdir, hdirectory, hsize, hput⟩ :=
    Storage.write_eq_ok hwrite (split_draftPath parent target).2
  have hlink := hlinks.ne_link
  obtain ⟨hne, rfl⟩ := hput (hlink _)
  rw [base_draftPath] at hdir
  exact ⟨dir, hdir, hdirectory, hsize, hne, .put_file (by simp) hne (hlink _), rfl⟩

namespace Drafted

variable {front : List String}

theorem get? (h : Drafted s parent target bytes dir s') :
    s'.get? (dir ++ [draftName ((Path.fileName? target).getD "output")]) = some (.file bytes) := by
  rw [h.eq, Storage.get?_put (by simp), if_pos rfl]

/-- The pieces of the directory lead there once the draft is written. -/
theorem exists_leads (h : Drafted s parent target bytes dir s') :
    ∃ left, s'.Leads linkLimit (Path.directoryPieces parent) (s'.base parent) left dir := by
  obtain ⟨left, hleads⟩ := Storage.leads_of_follow h.follow
  rw [h.keeps.base_eq]
  exact ⟨left, hleads.keep h.keeps (by rw [h.keeps.directory _ h.directory]; rfl)⟩

theorem isDraft (h : Drafted s parent target bytes dir s')
    (hparent : Path.parent? target = some parent) :
    IsDraft s' target (dir ++ [draftName ((Path.fileName? target).getD "output")]) := by
  obtain ⟨left, hleads⟩ := h.exists_leads
  rw [← base_draftPath] at hleads
  exact ⟨parent, hparent, Storage.locate_of_leads (split_draftPath parent target).2
    (isName_draftName _) h.size hleads (h.keeps.directory _ h.directory) h.get? (by simp)⟩

/-- A target that ends in a name lies in the directory of its draft. -/
theorem exists_leads_target (h : Drafted s parent target bytes dir s')
    (hparent : Path.parent? target = some parent)
    (hsplit : Text.split '/' target = front ++ [name]) (hname : IsName name) :
    Path.fileName? target = some name ∧ name.utf8ByteSize ≤ nameLimit ∧
      ∃ left, s'.Leads linkLimit front (s'.base target) left dir := by
  have hfile : Path.fileName? target = some name := by
    rw [Path.fileName?, Path.getLast?_parts hsplit hname]
  obtain ⟨_, idle, hparent', rfl, hidle, habs⟩ := Path.parent?_eq_some hsplit hname
  cases hparent'.symm.trans hparent
  obtain ⟨left, hleads⟩ := h.exists_leads
  rw [Storage.base, habs, ← Storage.base] at hleads
  have hsize := h.size
  rw [hfile, Option.getD_some, draftName, String.utf8ByteSize_append,
    String.utf8ByteSize_append] at hsize
  exact ⟨hfile, by omega, left, hleads.append_idle (h.keeps.directory _ h.directory) hidle⟩

end Drafted

theorem ends_of_rename_error (hlinks : s₁.Unlinked []) (hmake : s.MakesAbove target s₁)
    (hparent : Path.parent? target = some parent)
    (hwrite : s₁.write (draftPath parent target) (Text.utf8 content.toList) = .ok s₂)
    (hrename : s₂.rename (draftPath parent target) target = .error fault) :
    Ends s target content s₂ (.error (.storage target fault)) := by
  obtain ⟨dir, hd⟩ := exists_drafted hlinks hwrite
  refine .refused hmake (by simp) hd.ne_directory hd.eq (hd.isDraft hparent) ?_
  intro front name hsplit hname
  obtain ⟨hfile, hsize, left, hleads⟩ := hd.exists_leads_target hparent hsplit hname
  have hdraft := (split_draftPath parent target).2
  obtain ⟨left', hleads'⟩ := hd.exists_leads
  rw [← base_draftPath] at hleads'
  have hdirectory := hd.keeps.directory _ hd.directory
  have hget := Storage.get?_of_rename_eq_error hrename hdraft (isName_draftName _) hd.size hsplit
    hname hsize hleads'.follow hdirectory hleads.follow hdirectory hd.get?
  rw [Storage.isDirectory, Storage.entryAt_eq_ok.2
    ⟨_, Storage.locate_of_leads hsplit hname hsize hleads hdirectory hget (by simp), hget⟩]

theorem ends_of_rename_ok (hlinks : s₁.Unlinked []) (hmake : s.MakesAbove target s₁)
    (hparent : Path.parent? target = some parent)
    (hwrite : s₁.write (draftPath parent target) (Text.utf8 content.toList) = .ok s₂)
    (hrename : s₂.rename (draftPath parent target) target = .ok s') :
    Ends s target content s' (.ok ()) := by
  obtain ⟨dir, hd⟩ := exists_drafted hlinks hwrite
  obtain ⟨front, name, hsplit, hname⟩ := Storage.exists_name_of_rename hrename
  obtain ⟨hfile, hsize, left, hleads⟩ := hd.exists_leads_target hparent hsplit hname
  have hdraft := (split_draftPath parent target).2
  obtain ⟨left', hleads'⟩ := hd.exists_leads
  rw [← base_draftPath] at hleads'
  obtain ⟨dir₁, dir₂, e, hdir₁, hdir₂, -, -, he, -, hne, hs'⟩ := Storage.rename_eq_ok hrename hdraft
    (isName_draftName _).1 hsplit hname.1
  cases hdir₁.symm.trans hleads'.follow
  cases hdir₂.symm.trans hleads.follow
  cases he.symm.trans hd.get?
  have hplaces : ¬ (dir ++ [name] == dir ++ [draftName ((Path.fileName? target).getD "output")]) =
      true := by
    rw [hfile, Option.getD_some, beq_iff_eq]
    exact fun hsame =>
      draftName_ne name (List.singleton_inj.1 (List.append_cancel_left hsame)).symm
  rw [if_neg hplaces] at hs'
  have hkeeps : s₂.Keeps s' := hs' ▸ .move (by simp) hd.get? (by simp) hne
    ((hd.keeps.unlinked_iff.2 hlinks).ne_link _)
  have hdirectory := hkeeps.directory _ (hd.keeps.directory _ hd.directory)
  have hget : s'.get? (dir ++ [name]) = some (.file (Text.utf8 content.toList)) := by
    rw [hs', Storage.get?_put (by simp), if_pos rfl]
  have hlocate := Storage.locate_of_leads hsplit hname hsize
    (hkeeps.base_eq target ▸ hleads.keep hkeeps (by rw [hdirectory]; rfl)) hdirectory hget
    (by simp)
  rw [hd.eq, hfile, Option.getD_some] at hs'
  exact .written hmake hs' hlocate

/-- Writing a file ends in one of these ways. -/
theorem ends_write (hlinks : s.Unlinked []) (target content : String) :
    Ends s target content (write s target content).1 (write s target content).2 := by
  unfold write
  split
  · exact .undrafted (.refl s target) (by simp)
  · next parent hparent =>
    have hmake : s.MakesAbove target (s.makeAllDirectories parent).1 :=
      .of_makeAllDirectories hparent
    split
    · next s₁ fault h =>
      rw [h] at hmake
      refine .undrafted hmake fun fault' hsame => Path.parent?_ne hparent ?_
      injection hsame
    · next s₁ h =>
      rw [h] at hmake
      have hlinks₁ := hmake.adds.keeps.unlinked_iff.2 hlinks
      dsimp only
      split
      · next fault hwrite =>
        refine .undrafted hmake fun fault' hsame => draftPath_ne parent target ?_
        injection hsame
      · next s₂ hwrite =>
        split
        · next fault hrename => exact ends_of_rename_error hlinks₁ hmake hparent hwrite hrename
        · next s₃ hrename => exact ends_of_rename_ok hlinks₁ hmake hparent hwrite hrename

/-! ## Files besides the target -/

/-- A file that could be written stands at its target. Every other file stays as it was, but for
one with the name of the draft, which is gone. -/
theorem frame_of_write_ok (hlinks : s.Unlinked []) (h : write s target content = (s', .ok ())) :
    ∃ dir name, s'.locate target = .ok (dir ++ [name]) ∧
      s'.readBytes target = .ok (Text.utf8 content.toList) ∧
      (∀ p, p ≠ dir ++ [name] → p ≠ dir ++ [draftName name] → s'.bytes? p = s.bytes? p) ∧
      s'.bytes? (dir ++ [draftName name]) = none ∧
      ((∀ p bytes, p ≠ dir ++ [name] → s.bytes? p = some bytes → s'.bytes? p = some bytes) ↔
        s.bytes? (dir ++ [draftName name]) = none) := by
  have hends : Ends s target content s' (.ok ()) := by
    simpa only [h] using ends_write hlinks target content
  cases hends with
  | @written s₁ _ dir name hmake hs' hlocate =>
    have hget : s'.get? (dir ++ [name]) = some (.file (Text.utf8 content.toList)) := by
      rw [hs', Storage.get?_put (by simp), if_pos rfl]
    have hbytes : ∀ p, s'.bytes? p = if p = dir ++ [name] then some (Text.utf8 content.toList)
        else if p = dir ++ [draftName name] then none else s.bytes? p := fun p => by
      rw [hs', Storage.bytes?_put_file (by simp), Storage.bytes?_remove (by simp),
        Storage.bytes?_put_file (by simp), hmake.adds.bytes?_eq]
      split_ifs <;> rfl
    have hne : dir ++ [draftName name] ≠ dir ++ [name] := fun hsame =>
      draftName_ne name (List.singleton_inj.1 (List.append_cancel_left hsame))
    have hframe : ∀ p, p ≠ dir ++ [name] → p ≠ dir ++ [draftName name] →
        s'.bytes? p = s.bytes? p := fun p hp hp' => by
      rw [hbytes, if_neg hp, if_neg hp']
    have hgone : s'.bytes? (dir ++ [draftName name]) = none := by
      rw [hbytes, if_neg hne, if_pos rfl]
    refine ⟨dir, name, hlocate, Storage.readBytes_of_entryAt
      (Storage.entryAt_eq_ok.2 ⟨_, hlocate, hget⟩), hframe, hgone, fun hkept => ?_,
      fun hnone p bytes hp hbytes => ?_⟩
    · by_contra hsome
      obtain ⟨bytes, hbytes⟩ := Option.ne_none_iff_exists'.1 hsome
      exact nomatch hgone.symm.trans (hkept _ bytes hne hbytes)
    · have hdraft : p ≠ dir ++ [draftName name] := by
        rintro rfl
        exact nomatch hnone.symm.trans hbytes
      exact (hframe p hp hdraft).trans hbytes

/-- A directory with a file, and with another one that has the name of a draft. -/
def bench : Storage :=
  ⟨[([".a.tmp"], .file (Text.utf8 "mine".toList)), (["b"], .file (Text.utf8 "old".toList))], []⟩

theorem bench_unlinked : bench.Unlinked [] :=
  Storage.unlinked_of_entries (by simp [bench])

theorem write_bench : write bench "/a" "new" =
    (⟨[(["b"], .file (Text.utf8 "old".toList)), (["a"], .file (Text.utf8 "new".toList))], []⟩,
      .ok ()) := by
  have hparent : Path.parent? "/a" = some "/" := by cbv
  have hdraft : draftPath "/" "/a" = "/.a.tmp" := by decide
  rw [write, hparent]
  dsimp only
  rw [hdraft]
  cbv

theorem frame_of_write_bench :
    bench.Unlinked [] ∧ (write bench "/a" "new").2 = .ok () ∧
      (let after := (write bench "/a" "new").1
       after.readBytes "/a" = .ok (Text.utf8 "new".toList) ∧
         after.bytes? ["b"] = bench.bytes? ["b"] ∧ after.bytes? [".a.tmp"] = none) := by
  obtain ⟨dir, name, hlocate, hread, hframe, hgone, -⟩ :=
    frame_of_write_ok bench_unlinked write_bench
  have htarget : dir ++ [name] = [] ++ ["a"] :=
    Except.ok.inj (hlocate.symm.trans (by cbv))
  obtain ⟨rfl, hname⟩ := List.append_inj' htarget rfl
  cases hname
  rw [write_bench]
  exact ⟨bench_unlinked, rfl, hread, hframe ["b"] (by decide) (by decide), hgone⟩

/-- Not every file besides the target is kept. -/
theorem write_loses_file : ¬ ∀ (s s' : Storage) (target content : String), s.Unlinked [] →
    write s target content = (s', .ok ()) → s'.readBytes target = .ok (Text.utf8 content.toList) ∧
      ∀ p bytes, s'.locate target ≠ .ok p → s.bytes? p = some bytes → s'.bytes? p = some bytes := by
  intro h
  have hkept := (h _ _ _ _ bench_unlinked write_bench).2 [".a.tmp"] (Text.utf8 "mine".toList)
    (fun hsame => absurd ((by cbv : _ = Except.ok ["a"]).symm.trans hsame) (by simp)) (by cbv)
  cbv at hkept
  cases hkept

/-- When a file could not be written, no place but that of the draft has changed, save for
directories that were missing above the target. The draft stays behind if the target was refused,
which happens only where a directory has its name, or where it ends in no name. -/
theorem makesAbove_iff_of_write_error (hlinks : s.Unlinked [])
    (h : write s target content = (s', .error e)) :
    (∀ p, ¬ IsDraft s' target p → s'.get? p = s.get? p ∨
      s.get? p = none ∧ s'.get? p = some .directory ∧
        ∃ dir, Path.Above dir target ∧ s'.locate dir = .ok p) ∧
    (∀ fault, e = .storage target fault → ∃ p, IsDraft s' target p ∧
      s'.get? p = some (.file (Text.utf8 content.toList))) ∧
    (s.MakesAbove target s' ↔ ∀ fault p, e = .storage target fault → IsDraft s' target p →
      s.get? p = some (.file (Text.utf8 content.toList))) ∧
    (∀ fault front name, e = .storage target fault → Text.split '/' target = front ++ [name] →
      IsName name → s'.isDirectory target = true) := by
  have hends : Ends s target content s' (.error e) := by
    simpa only [h] using ends_write hlinks target content
  cases hends with
  | undrafted hmake hfault =>
    exact ⟨fun p _ => hmake.get? p, fun fault he => absurd he (hfault fault),
      ⟨fun _ fault _ he => absurd he (hfault fault), fun _ => hmake⟩,
      fun fault _ _ he => absurd he (hfault fault)⟩
  | @refused s₁ _ draft fault hmake hne hdir hs' hdraft hrefused =>
    have hlink : ∀ t, s₁.get? draft ≠ some (.link t) :=
      (hmake.adds.keeps.unlinked_iff.2 hlinks).ne_link draft
    have hkeeps : s₁.Keeps s' := hs' ▸ .put_file hne hdir hlink
    have hget : s'.get? draft = some (.file (Text.utf8 content.toList)) := by
      rw [hs', Storage.get?_put hne, if_pos rfl]
    have hother : ∀ p, p ≠ draft → s'.get? p = s₁.get? p := fun p hp => by
      rw [hs', Storage.get?_put hne, if_neg hp]
    refine ⟨fun p hp => hmake.get?_of_eq hkeeps (hother p fun hsame => hp (hsame ▸ hdraft)),
      fun _ _ => ⟨draft, hdraft, hget⟩, ⟨fun hmakes _ p _ hp => ?_, fun hsame => ?_⟩,
      fun _ front name _ => hrefused front name⟩
    · obtain rfl := hdraft.unique hp
      rcases hmakes.get? draft with hkept | ⟨-, hmade, -⟩
      · exact hkept.symm.trans hget
      · exact nomatch hget.symm.trans hmade
    · refine ⟨hkeeps.workDir.trans hmake.workDir, fun p => ?_⟩
      by_cases hp : p = draft
      · exact .inl (by rw [hp, hget, hsame fault draft rfl hdraft])
      · exact hmake.get?_of_eq hkeeps (hother p hp)

/-- A directory whose name a file should have. -/
def occupied : Storage := ⟨[(["a"], .directory)], []⟩

theorem occupied_unlinked : occupied.Unlinked [] :=
  Storage.unlinked_of_entries (by simp [occupied])

theorem write_occupied : write occupied "/a" "new" =
    (⟨[(["a"], .directory), ([".a.tmp"], .file (Text.utf8 "new".toList))], []⟩,
      .error (.storage "/a" .isDirectory)) := by
  have hparent : Path.parent? "/a" = some "/" := by cbv
  have hdraft : draftPath "/" "/a" = "/.a.tmp" := by decide
  rw [write, hparent]
  dsimp only
  rw [hdraft]
  cbv

theorem makesAbove_of_write_occupied :
    occupied.Unlinked [] ∧
      (write occupied "/a" "new").2 = .error (.storage "/a" .isDirectory) ∧
      (let after := (write occupied "/a" "new").1
       after.get? ["a"] = occupied.get? ["a"] ∧ after.isDirectory "/a" = true ∧
         ¬ occupied.MakesAbove "/a" after) := by
  obtain ⟨hframe, hdraft, hmakes, hrefused⟩ :=
    makesAbove_iff_of_write_error occupied_unlinked write_occupied
  rw [write_occupied]
  obtain ⟨p, hp, hget⟩ := hdraft _ rfl
  refine ⟨occupied_unlinked, rfl, ?_, hrefused _ [""] "a" rfl (by cbv)
    ⟨by decide, by decide, by decide⟩, fun h => ?_⟩
  · refine (hframe ["a"] fun ha => ?_).resolve_right fun h => absurd h.1 (by decide)
    obtain rfl := hp.unique ha
    cbv at hget
    cases hget
  · have hgone := hmakes.1 h _ p rfl hp
    rcases Storage.get?_cases hgone with ⟨-, h⟩ | h
    · cases h
    · simp [occupied] at h

/-- A file that could not be written may leave another file behind. -/
theorem write_leaves_file : ¬ ∀ (s s' : Storage) (target content : String) (e : Failure),
    s.Unlinked [] → write s target content = (s', .error e) →
      ∀ p, s'.bytes? p = s.bytes? p := by
  intro h
  have hsame := h _ _ _ _ _ occupied_unlinked write_occupied [".a.tmp"]
  cbv at hsame
  cases hsame

end Output

end ContextCompiler
