import ContextCompiler.Proofs.Glob.PathFilter
import ContextCompiler.Sources.Local

/-!
How many files a source shows.

The loop over the files looks at the limit before each of them, and passes over those without a text
and those with a text that is not wanted. So a limit counts only files that are shown: what is shown
under it are the first of the files that are shown without one (`gather_ofFiles`), and outline and
blocks are always of the same files.
-/

namespace ContextCompiler

namespace FileSource

variable {spec : FileSource} {content : String} {files : List (String × String)}
  {rest : List (String × Option String)}

/-! ## Wanted files -/

/-- A text has one of the wanted parts, if any is asked for, and none of the unwanted ones. -/
def Wants (spec : FileSource) (content : String) : Prop :=
  (spec.contains = [] ∨ ∃ part ∈ spec.contains, part.toList <:+: content.toList) ∧
    ∀ part ∈ spec.notContains, ¬ part.toList <:+: content.toList

theorem admits_iff : spec.admits content = true ↔ spec.Wants content := by
  simp [admits, Wants, Text.contains, ← Text.occursIn_iff]

instance (spec : FileSource) (content : String) : Decidable (spec.Wants content) :=
  decidable_of_iff _ admits_iff

/-- The files with texts that are wanted, in order, each with its text. -/
def wanted (spec : FileSource) (readings : List (String × Option String)) :
    List (String × String) :=
  readings.filterMap fun (display, text?) =>
    text?.bind fun content => if spec.Wants content then some (display, content) else none

theorem wanted_some (display : String) : spec.wanted ((display, some content) :: rest) =
    if spec.Wants content then (display, content) :: spec.wanted rest else spec.wanted rest := by
  unfold wanted
  rw [List.filterMap_cons]
  dsimp only
  rw [Option.bind_some]
  by_cases h : spec.Wants content
  · rw [if_pos h, if_pos h]
  · rw [if_neg h, if_neg h]

/-! ## What is shown -/

namespace Shown

/-- Files with their texts, all of them shown. -/
def ofFiles (files : List (String × String)) : Shown :=
  ⟨files.map fun f => (f.1, none), files.map fun f => Render.fileBlock f.1 f.2⟩

theorem add_ofFiles (display : String) :
    (ofFiles files).add display content = ofFiles (files ++ [(display, content)]) := by
  simp [ofFiles, add]

end Shown

/-- The files that are still shown when `n` are shown already. -/
def remaining (spec : FileSource) (n : Nat) (files : List (String × String)) :
    List (String × String) :=
  match spec.maxFiles with
  | some (m + 1) => files.take (m + 1 - n)
  | _ => files

theorem remaining_nil (n : Nat) : spec.remaining n [] = [] := by
  unfold remaining
  split
  · exact List.take_nil
  · rfl

theorem remaining_some {m : Nat} (h : spec.maxFiles = some (m + 1)) (n : Nat) :
    spec.remaining n files = files.take (m + 1 - n) := by
  rw [remaining, h]

theorem isFull_ofFiles : spec.isFull (.ofFiles files) = true ↔
    ∃ m, spec.maxFiles = some (m + 1) ∧ m + 1 ≤ files.length := by
  have hlength : (Shown.ofFiles files).blocks.length = files.length := List.length_map _
  unfold isFull
  rw [hlength]
  split
  · next m hm =>
    rw [decide_eq_true_iff]
    refine ⟨fun hfull => ⟨m, hm, hfull⟩, ?_⟩
    rintro ⟨k, hk, hfull⟩
    cases hm.symm.trans hk
    exact hfull
  · next hnone =>
    refine ⟨nofun, ?_⟩
    rintro ⟨m, hm, -⟩
    exact absurd hm (hnone m)

theorem remaining_of_isFull {more : List (String × String)}
    (h : spec.isFull (.ofFiles files) = true) : spec.remaining files.length more = [] := by
  obtain ⟨m, hm, hfull⟩ := isFull_ofFiles.1 h
  rw [remaining_some hm, Nat.sub_eq_zero_of_le hfull, List.take_zero]

theorem remaining_cons {f : String × String} {more : List (String × String)}
    (h : ¬ spec.isFull (.ofFiles files) = true) :
    spec.remaining files.length (f :: more) = f :: spec.remaining (files.length + 1) more := by
  unfold remaining
  split
  · next m hm =>
    have hroom : files.length < m + 1 :=
      Nat.lt_of_not_le fun hfull => h (isFull_ofFiles.2 ⟨m, hm, hfull⟩)
    obtain ⟨k, hk⟩ := Nat.exists_eq_add_of_lt hroom
    rw [show m + 1 - files.length = k + 1 by omega, List.take_succ_cons,
      show m + 1 - (files.length + 1) = k by omega]
  · rfl

/-- When files are shown already, the loop shows those wanted files that there is room for. -/
theorem gather_ofFiles (spec : FileSource) (files : List (String × String))
    (readings : List (String × Option String)) : spec.gather (.ofFiles files) readings =
      .ofFiles (files ++ spec.remaining files.length (spec.wanted readings)) := by
  induction readings generalizing files with
  | nil => rw [gather, wanted, List.filterMap_nil, remaining_nil, List.append_nil]
  | cons reading rest ih =>
    obtain ⟨display, text?⟩ := reading
    unfold gather
    split
    · next hfull => rw [remaining_of_isFull hfull, List.append_nil]
    · next hroom =>
      cases text? with
      | none => exact ih files
      | some content =>
        rw [wanted_some]
        dsimp only
        by_cases hwants : spec.Wants content
        · rw [if_pos (admits_iff.2 hwants), if_pos hwants, Shown.add_ofFiles, ih,
            remaining_cons hroom, List.length_append, List.append_assoc]
          rfl
        · rw [if_neg (mt admits_iff.1 hwants), if_neg hwants, ih]

/-- What a source comes to that shows files: their outline, if it is wanted and there are any, and
then their blocks. -/
def page (spec : FileSource) (files : List (String × String)) : String :=
  let blocks := Text.join "\n" (files.map fun f => Render.fileBlock f.1 f.2)
  if spec.showTreeView = true ∧ files ≠ [] then
    outline (files.map fun f => (f.1, none)) ++ "\n" ++ blocks
  else blocks

theorem text_ofFiles (spec : FileSource) (files : List (String × String)) :
    (Shown.ofFiles files).text spec.showTreeView = spec.page files := by
  unfold Shown.text page Shown.ofFiles
  by_cases hshow : spec.showTreeView = true <;> by_cases hfiles : files = [] <;>
    simp [hshow, hfiles]

/-- The texts of the files that were found. -/
def textsOf (files : List LocalFile) : List (String × Option String) :=
  files.map fun f => (f.display, f.text?)

theorem render_eq (spec : FileSource) (storage : Storage) (baseDir : String) :
    spec.render storage baseDir =
      (LocalFile.collect storage baseDir spec.sourcePaths
        (.ofLists spec.filePattern spec.path spec.notPath) none).map
          fun files => spec.page (spec.remaining 0 (spec.wanted (textsOf files))) := by
  unfold render
  dsimp only
  cases LocalFile.collect storage baseDir spec.sourcePaths
      (.ofLists spec.filePattern spec.path spec.notPath) none with
  | error fault => rfl
  | ok files =>
    refine congrArg Except.ok ?_
    dsimp only
    rw [← text_ofFiles]
    exact congrArg (·.text spec.showTreeView) (gather_ofFiles spec [] (textsOf files))

/-- A limit shows the first of the files that are shown without one, as many as it allows. Files
that cannot be read as text or whose texts are not wanted do not count, however the files follow
one another. The outline is that of the files whose blocks follow. -/
theorem render_first_files (spec : FileSource) (m : Nat) :
    (∀ readings,
      let all := { spec with maxFiles := none }.gather .empty readings
      let first := { spec with maxFiles := some (m + 1) }.gather .empty readings
      all = .ofFiles (spec.wanted readings) ∧
        first = .ofFiles ((spec.wanted readings).take (m + 1)) ∧
        first.listed = all.listed.take (m + 1) ∧ first.blocks = all.blocks.take (m + 1)) ∧
      ∀ storage baseDir,
        let found := LocalFile.collect storage baseDir spec.sourcePaths
          (.ofLists spec.filePattern spec.path spec.notPath) none
        { spec with maxFiles := none }.render storage baseDir =
            found.map (fun files => spec.page (spec.wanted (textsOf files))) ∧
          { spec with maxFiles := some (m + 1) }.render storage baseDir =
            found.map fun files => spec.page ((spec.wanted (textsOf files)).take (m + 1)) := by
  refine ⟨fun readings => ?_, fun storage baseDir => ⟨render_eq _ _ _, render_eq _ _ _⟩⟩
  have hall : { spec with maxFiles := none }.gather .empty readings =
      .ofFiles (spec.wanted readings) := gather_ofFiles _ [] readings
  have hfirst : { spec with maxFiles := some (m + 1) }.gather .empty readings =
      .ofFiles ((spec.wanted readings).take (m + 1)) := gather_ofFiles _ [] readings
  dsimp only
  rw [hall, hfirst]
  exact ⟨rfl, rfl, List.map_take, List.map_take⟩

end FileSource

end ContextCompiler
