import Mathlib
import ContextCompiler.Generate.Run
import ContextCompiler.Proofs.Output.Write

/-!
What the files of a run hold.

Several documents may name one file, by different spellings. The last of them decides what it
holds, among all of them when the file was not there before the run, and among those that may
overwrite it when it was. What an earlier document of the same run wrote is never kept from a later
one.
-/

namespace ContextCompiler

namespace CompiledDocument

variable {root target : String} {before s : Storage} {docs : List CompiledDocument}
  {d : CompiledDocument}

/-- The targets of documents that have one. -/
def targets (root : String) (docs : List CompiledDocument) : List String :=
  docs.filterMap fun d => (Output.resolve root d.outputPath).toOption

/-- Whether a document is put at a target. -/
def isFor (root target : String) (d : CompiledDocument) : Bool :=
  (Output.resolve root d.outputPath).toOption == some target

/-- Whether a run writes a document to a target. -/
def isWrittenTo (root target : String) (before : Storage) (d : CompiledDocument) : Bool :=
  d.isFor root target && (d.overwrite || !before.isThere target)

/-- Every file of a run can be written when its turn comes, and no other file changes then. -/
def Undisturbed (root : String) (before : Storage) (docs : List CompiledDocument) : Prop :=
  ∀ front d target, front ++ [d] <+: docs → d.isWrittenTo root target before = true →
    let s := (writeAll root before none before front).1
    (Output.write s target d.content).2 = .ok () ∧
      s.ChangesOnly target (Output.write s target d.content).1

theorem isFor_iff : d.isFor root target = true ↔ Output.resolve root d.outputPath = .ok target := by
  unfold isFor
  cases Output.resolve root d.outputPath with
  | error e => exact ⟨fun h => by simp [Except.toOption] at h, nofun⟩
  | ok t => simp [Except.toOption]

theorem mem_targets : target ∈ targets root docs ↔ ∃ d ∈ docs, d.isFor root target = true := by
  simp only [targets, List.mem_filterMap, isFor, beq_iff_eq]

theorem exists_isTarget (h : d.isFor root target = true) :
    ∃ names, Output.IsTarget root names target :=
  Output.isTarget_of_resolve (isFor_iff.1 h)

/-- A document is written to one target at most. -/
theorem not_isWrittenTo_of_ne {target' : String} (h : d.isWrittenTo root target before = true)
    (hne : target' ≠ target) : d.isWrittenTo root target' before = false := by
  rw [← Bool.not_eq_true]
  intro h'
  have hfor := isFor_iff.1 (Bool.and_eq_true_iff.1 h).1
  have hfor' := isFor_iff.1 (Bool.and_eq_true_iff.1 h').1
  exact hne (Except.ok.inj (hfor'.symm.trans hfor))

/-! ## One document -/

/-- A document is not written and changes nothing, or it is written to its target. -/
theorem write_cases (d : CompiledDocument) (root : String) (before s : Storage) :
    (d.write root before false s).1 = s ∧ (∀ target, d.isWrittenTo root target before = false) ∨
      ∃ target, d.isWrittenTo root target before = true ∧
        (d.write root before false s).1 = (Output.write s target d.content).1 := by
  unfold write isWrittenTo isFor
  cases Output.resolve root d.outputPath with
  | error e => exact .inl ⟨rfl, fun _ => rfl⟩
  | ok target =>
    simp only [Bool.false_eq_true, if_false, Except.toOption]
    split
    · next hskip =>
      refine .inl ⟨rfl, fun target' => ?_⟩
      by_cases h : some target == some target'
      · rw [beq_iff_eq, Option.some_inj] at h
        subst h
        simpa [Bool.and_eq_true, Bool.not_eq_true'] using hskip
      · simp [h]
    · next hwrite =>
      refine .inr ⟨target, ?_, ?_⟩
      · simpa [imp_iff_not_or] using hwrite
      · split
        · next h => rw [h]
        · next h => rw [h]

/-- A document is reported as skipped only if its file was there before the run and is not to be
overwritten. -/
theorem skipped_of_write {cancelled : Bool}
    (h : (d.write root before cancelled s).2.1.status = .skipped) :
    d.overwrite = false ∧ ∃ target, d.isFor root target = true ∧ before.isThere target = true := by
  have hreport : ∀ errors skipped, (d.report root errors skipped).1.status = .skipped →
      skipped = true := fun errors skipped h => by
    unfold report at h
    dsimp only at h
    split at h
    · cases h
    · split at h
      · assumption
      · cases h
  unfold write at h
  split at h
  · exact nomatch hreport _ _ h
  · next target hresolve =>
    split at h
    · exact nomatch hreport _ _ h
    · split at h
      · next hskip =>
        rw [Bool.and_eq_true, Bool.not_eq_true'] at hskip
        exact ⟨hskip.1, target, isFor_iff.2 hresolve, hskip.2⟩
      · split at h
        · exact nomatch hreport _ _ h
        · exact nomatch hreport _ _ h

/-! ## The run -/

theorem writeAll_fst (root : String) (before s : Storage) (docs : List CompiledDocument) :
    (writeAll root before none s docs).1 =
      docs.foldl (fun s d => (d.write root before false s).1) s := by
  induction docs generalizing s with
  | nil => rfl
  | cons d rest ih =>
    rw [writeAll, List.foldl_cons]
    exact ih _

theorem writeAll_concat (root : String) (before s : Storage) (docs : List CompiledDocument)
    (d : CompiledDocument) : (writeAll root before none s (docs ++ [d])).1 =
      (d.write root before false (writeAll root before none s docs).1).1 := by
  rw [writeAll_fst, writeAll_fst, List.foldl_concat]

theorem skipped_of_writeAll (root : String) (before : Storage) (left : Option Nat) (s : Storage)
    (docs : List CompiledDocument) :
    List.Forall₂ (fun (d : CompiledDocument) (report : DocumentReport) =>
      report.status = .skipped → d.overwrite = false ∧
        ∃ target, d.isFor root target = true ∧ before.isThere target = true)
      docs (writeAll root before left s docs).2.1 := by
  induction docs generalizing left s with
  | nil => exact .nil
  | cons d rest ih =>
    rw [writeAll]
    exact .cons skipped_of_write (ih _ _)

/-- A run is undisturbed up to a document, and that document is written undisturbed as well. -/
theorem undisturbed_concat : Undisturbed root before (docs ++ [d]) ↔
    Undisturbed root before docs ∧ ∀ target, d.isWrittenTo root target before = true →
      let s := (writeAll root before none before docs).1
      (Output.write s target d.content).2 = .ok () ∧
        s.ChangesOnly target (Output.write s target d.content).1 := by
  constructor
  · intro h
    exact ⟨fun front d' target hfront => h front d' target (hfront.trans (List.prefix_append _ _)),
      fun target => h docs d target List.prefix_rfl⟩
  · rintro ⟨h, hd⟩ front d' target hfront
    rcases List.prefix_concat_iff.1 hfront with heq | hfront
    · obtain ⟨rfl, hlast⟩ := List.append_inj' heq rfl
      obtain rfl := List.singleton_inj.1 hlast
      exact hd target
    · exact h front d' target hfront

/-- An undisturbed run that ends with `after`. -/
structure Runs (root : String) (before : Storage) (docs : List CompiledDocument)
    (after : Storage) : Prop where
  undisturbed : Undisturbed root before docs
  result : (writeAll root before none before docs).1 = after

namespace Runs

theorem nil : Runs root before [] before :=
  ⟨fun front d target h => by simp at h, rfl⟩

/-- The next document may be one that is not written. -/
theorem skip (h : Runs root before docs s) (target : String)
    (hresolve : Output.resolve root d.outputPath = .ok target)
    (hd : d.isWrittenTo root target before = false) : Runs root before (docs ++ [d]) s := by
  have hnot : ∀ target, d.isWrittenTo root target before = false := fun target' => by
    by_cases hne : target = target'
    · exact hne ▸ hd
    · rw [isWrittenTo, isFor, hresolve]
      simp [Except.toOption, hne]
  refine ⟨undisturbed_concat.2 ⟨h.undisturbed, fun target' hd' => ?_⟩, ?_⟩
  · exact absurd ((hnot target').symm.trans hd') Bool.false_ne_true
  · rw [writeAll_concat, h.result]
    rcases write_cases d root before s with ⟨hs, -⟩ | ⟨target', hd', -⟩
    · exact hs
    · exact absurd ((hnot target').symm.trans hd') Bool.false_ne_true

/-- The next document may be one whose file is put in a place, and nothing else is done. -/
theorem write (h : Runs root before docs s) (target : String) (place : Place) (hne : place ≠ [])
    (hd : d.isWrittenTo root target before = true)
    (hwrite : Output.write s target d.content =
      (s.put place (.file (Text.utf8 d.content.toList)), .ok ()))
    (hplace : (s.put place (.file (Text.utf8 d.content.toList))).locate target = .ok place) :
    Runs root before (docs ++ [d]) (s.put place (.file (Text.utf8 d.content.toList))) := by
  have htarget : ∀ target', d.isWrittenTo root target' before = true → target' = target :=
    fun target' hd' => by
      by_contra hne
      exact absurd ((not_isWrittenTo_of_ne hd hne).symm.trans hd') Bool.false_ne_true
  refine ⟨undisturbed_concat.2 ⟨h.undisturbed, fun target' hd' => ?_⟩, ?_⟩
  · dsimp only
    rw [htarget target' hd', h.result, hwrite]
    exact ⟨rfl, Storage.changesOnly_put hne hplace⟩
  · rw [writeAll_concat, h.result]
    rcases write_cases d root before s with ⟨-, hnot⟩ | ⟨target', hd', hs⟩
    · exact absurd ((hnot target).symm.trans hd) Bool.false_ne_true
    · rw [hs, htarget target' hd', hwrite]

end Runs

/-! ## What is left -/

/-- What the files hold after documents were written. -/
structure Settles (root : String) (before : Storage) (docs : List CompiledDocument)
    (s : Storage) : Prop where
  noLinksBelow : s.NoLinksBelow root
  written : ∀ target d, (docs.filter (isWrittenTo root target before)).getLast? = some d →
    s.entryAt target = .ok (.file (Text.utf8 d.content.toList))
  kept : ∀ names target, Output.IsTarget root names target →
    docs.filter (isWrittenTo root target before) = [] →
    ∀ e, before.entryAt target = .ok e → s.entryAt target = .ok e
  other : ∀ p, (∀ target ∈ targets root docs, s.locate target ≠ .ok p) →
    s.bytes? p = before.bytes? p

namespace Settles

theorem nil (h : before.NoLinksBelow root) : Settles root before [] before :=
  ⟨h, nofun, fun _ _ _ _ _ => id, fun _ _ => rfl⟩

theorem filter_concat_of_not (h : d.isWrittenTo root target before = false) :
    (docs ++ [d]).filter (isWrittenTo root target before) =
      docs.filter (isWrittenTo root target before) := by
  rw [List.filter_append, List.filter_singleton, h]
  exact List.append_nil _

theorem targets_concat (h : target ∈ targets root docs) : target ∈ targets root (docs ++ [d]) := by
  rw [targets, List.filterMap_append]
  exact List.mem_append_left _ h

/-- A document that is not written leaves everything as it is. -/
theorem skip (h : Settles root before docs s)
    (hd : ∀ target, d.isWrittenTo root target before = false) :
    Settles root before (docs ++ [d]) s where
  noLinksBelow := h.noLinksBelow
  written target d' hlast := h.written target d' (by
    rwa [filter_concat_of_not (hd target)] at hlast)
  kept names target ht hnone := h.kept names target ht (by
    rwa [filter_concat_of_not (hd target)] at hnone)
  other p hp := h.other p fun target ht => hp target (targets_concat ht)

/-- A document that is written decides for its target, and leaves the others as they are. -/
theorem write {s' : Storage} {r : Place} {names : List String} (h : Settles root before docs s)
    (hd : d.isWrittenTo root target before = true)
    (hw : Output.Wrote s root r names target d.content s') :
    Settles root before (docs ++ [d]) s' where
  noLinksBelow := hw.noLinksBelow
  written target' d' hlast := by
    by_cases hne : target' = target
    · subst hne
      rw [List.filter_append, List.filter_singleton, hd, cond_true, List.getLast?_concat] at hlast
      cases hlast
      exact hw.entryAt
    · rw [filter_concat_of_not (not_isWrittenTo_of_ne hd hne)] at hlast
      obtain ⟨names', ht⟩ := exists_isTarget (Bool.and_eq_true_iff.1
        (List.mem_filter.1 (List.mem_of_getLast? hlast)).2).1
      exact hw.entryAt_of_ne ht hne (h.written target' d' hlast)
  kept names' target' ht hnone e he := by
    by_cases hne : target' = target
    · subst hne
      exact absurd hd (List.filter_eq_nil_iff.1 hnone d (by simp))
    · rw [filter_concat_of_not (not_isWrittenTo_of_ne hd hne)] at hnone
      exact hw.entryAt_of_ne ht hne (h.kept names' target' ht hnone e he)
  other p hp := by
    have hfor := (Bool.and_eq_true_iff.1 hd).1
    refine (hw.changesOnly p (hp target (mem_targets.2 ⟨d, by simp, hfor⟩))).trans
      (h.other p fun target' htarget hlocate => ?_)
    obtain ⟨d', -, hd'⟩ := mem_targets.1 htarget
    obtain ⟨names', ht⟩ := exists_isTarget hd'
    exact hp target' (targets_concat htarget) (hw.locate_eq ht hlocate)

end Settles

theorem settles_writeAll (hlinks : before.NoLinksBelow root)
    (hwrites : Undisturbed root before docs) :
    Settles root before docs (writeAll root before none before docs).1 := by
  induction docs using List.reverseRecOn with
  | nil => exact .nil hlinks
  | append_singleton docs d ih =>
    obtain ⟨hwrites, hlast⟩ := undisturbed_concat.1 hwrites
    have h := ih hwrites
    rw [writeAll_concat]
    rcases write_cases d root before (writeAll root before none before docs).1 with
      ⟨hs, hd⟩ | ⟨target, hd, hs⟩
    · rw [hs]
      exact h.skip hd
    · rw [hs]
      obtain ⟨hok, honly⟩ := hlast target hd
      obtain ⟨names, ht⟩ := exists_isTarget (Bool.and_eq_true_iff.1 hd).1
      obtain ⟨r, hw⟩ := Output.exists_wrote ht h.noLinksBelow (Prod.ext rfl hok) honly
      exact h.write hd hw

/-- The last document for a target decides what its file holds after a run: the last one of all
when the file was not there before, and the last one that may overwrite it when it was. No other
file changes, and only a file that was there before is skipped. -/
theorem writeAll_contents (hlinks : before.NoLinksBelow root)
    (hwrites : Undisturbed root before docs) :
    let after := (writeAll root before none before docs).1
    let reports := (writeAll root before none before docs).2.1
    (∀ target ∈ targets root docs,
      if before.isThere target then
        match (docs.filter fun d => d.isFor root target && d.overwrite).getLast? with
        | some d => after.readBytes target = .ok (Text.utf8 d.content.toList)
        | none => after.readBytes target = before.readBytes target
      else
        ∃ d, (docs.filter (isFor root target)).getLast? = some d ∧
          after.readBytes target = .ok (Text.utf8 d.content.toList)) ∧
    (∀ p, (∀ target ∈ targets root docs, after.locate target ≠ .ok p) →
      after.bytes? p = before.bytes? p) ∧
    List.Forall₂ (fun (d : CompiledDocument) (report : DocumentReport) =>
      report.status = .skipped → d.overwrite = false ∧
        ∃ target, d.isFor root target = true ∧ before.isThere target = true) docs reports := by
  intro after reports
  have h : Settles root before docs after := settles_writeAll hlinks hwrites
  refine ⟨fun target htarget => ?_, h.other, skipped_of_writeAll root before none before docs⟩
  clear_value after
  obtain ⟨d, hd, hfor⟩ := mem_targets.1 htarget
  split
  · next hthere =>
    have hwritten : isWrittenTo root target before =
        fun d => d.isFor root target && d.overwrite := by
      funext d
      rw [isWrittenTo, hthere, Bool.not_true, Bool.or_false]
    rw [← hwritten]
    split
    · next d hlast => exact Storage.readBytes_of_entryAt (h.written target d hlast)
    · next hnone =>
      obtain ⟨names, ht⟩ := exists_isTarget hfor
      obtain ⟨e, he⟩ := Storage.exists_entryAt hthere
      have he' := h.kept names target ht (List.getLast?_eq_none_iff.1 hnone) e he
      rw [Storage.readBytes, Storage.readBytes, he, he']
  · next hmissing =>
    rw [Bool.not_eq_true] at hmissing
    have hwritten : isWrittenTo root target before = isFor root target := by
      funext d
      rw [isWrittenTo, hmissing, Bool.not_false, Bool.or_true, Bool.and_true]
    rw [← hwritten]
    have hne : docs.filter (isWrittenTo root target before) ≠ [] :=
      List.ne_nil_of_mem (List.mem_filter.2 ⟨hd, by rw [hwritten, hfor]⟩)
    have hlast := List.getLast?_eq_some_getLast hne
    exact ⟨_, hlast, Storage.readBytes_of_entryAt (h.written target _ hlast)⟩

/-- A directory with one file. -/
def shelf : Storage :=
  ⟨[(["o"], .directory), (["o", "a"], .file (Text.utf8 "old".toList))], []⟩

/-- Documents of which two name one file, by different spellings. -/
def spellings : List CompiledDocument :=
  [⟨"a", false, "new", .empty⟩, ⟨"b", true, "one", .empty⟩, ⟨"./b", false, "two", .empty⟩]

theorem shelf_noLinksBelow : shelf.NoLinksBelow "/o" := by
  intro _ _ _ _ q t hget
  rcases Storage.get?_cases hget with ⟨-, h⟩ | h
  · cases h
  · simp [shelf] at h

theorem spellings_undisturbed : Undisturbed "/o" shelf spellings := by
  have hparent : Path.parent? "/o/b" = some "/o" := by cbv
  have hdraft : Output.draftPath "/o" "/o/b" = "/o/.b.tmp" := by decide
  have h₁ : Runs "/o" shelf [⟨"a", false, "new", .empty⟩] shelf :=
    Runs.nil.skip "/o/a" (by cbv) (by cbv)
  have h₂ := h₁.write (d := ⟨"b", true, "one", .empty⟩) "/o/b" ["o", "b"] (by decide) (by cbv)
    (by rw [Output.write, hparent]; dsimp only; rw [hdraft]; cbv) (by cbv)
  have h₃ := h₂.write (d := ⟨"./b", false, "two", .empty⟩) "/o/b" ["o", "b"] (by decide) (by cbv)
    (by rw [Output.write, hparent]; dsimp only; rw [hdraft]; cbv) (by cbv)
  exact h₃.undisturbed

theorem spellings_contents :
    shelf.NoLinksBelow "/o" ∧ Undisturbed "/o" shelf spellings ∧
      (let after := (writeAll "/o" shelf none shelf spellings).1
       after.readBytes "/o/a" = shelf.readBytes "/o/a" ∧
         after.readBytes "/o/b" = .ok (Text.utf8 "two".toList)) := by
  refine ⟨shelf_noLinksBelow, spellings_undisturbed, ?_⟩
  obtain ⟨h, -, -⟩ := writeAll_contents shelf_noLinksBelow spellings_undisturbed
  have htargets : targets "/o" spellings = ["/o/a", "/o/b", "/o/b"] := by cbv
  have ha := h "/o/a" (by simp [htargets])
  have hb := h "/o/b" (by simp [htargets])
  have hthere : shelf.isThere "/o/a" = true := by cbv
  have hmissing : shelf.isThere "/o/b" = false := by cbv
  have hnone : (spellings.filter fun d => d.isFor "/o" "/o/a" && d.overwrite).getLast? = none := by
    cbv
  have hlast : (spellings.filter (isFor "/o" "/o/b")).getLast? =
      some ⟨"./b", false, "two", .empty⟩ := by cbv
  rw [hthere, if_pos rfl, hnone] at ha
  rw [hmissing, if_neg Bool.false_ne_true, hlast] at hb
  obtain ⟨d, hd, hb⟩ := hb
  cases hd
  exact ⟨ha, hb⟩

end CompiledDocument

end ContextCompiler
