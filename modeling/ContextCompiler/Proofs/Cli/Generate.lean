import Mathlib
import ContextCompiler.Cli.Run
import ContextCompiler.Proofs.Generate.Pool
import ContextCompiler.Proofs.Generate.Report
import ContextCompiler.Proofs.Json.Reading

/-!
The two ways in which compiling all documents tells how it went.

As data the command prints one object, which is read back as such (`RunReport.readable_toJson`),
and in lines it fails wherever that object's status is an error (`Agrees`). Settings that cannot be
read and a work directory that is none come before the choice between the two: there the command
fails without an object (`runGenerate_modes`).
-/

namespace ContextCompiler

/-! ## Reports as data -/

namespace Json

theorem readable_strings (n : Nat) (items : List String) :
    Readable (n + 1) (.arr (items.map .str)) := by
  refine .arr fun v hv => ?_
  obtain ⟨s, -, rfl⟩ := List.mem_map.1 hv
  exact .str

end Json

open Json (Readable)

theorem DocumentReport.readable_toJson (d : DocumentReport) : Readable 2 d.toJson := by
  refine .obj fun f hf => ?_
  simp only [List.mem_cons, List.not_mem_nil, or_false] at hf
  rcases hf with rfl | rfl | rfl | rfl
  · exact .str
  · exact .str
  · exact .str
  · exact Json.readable_strings 0 d.errors

namespace RunReport

theorem readable_entry (scope message : String) : Readable 2 (entry scope message) := by
  refine .obj fun f hf => ?_
  simp only [List.mem_cons, List.not_mem_nil, or_false] at hf
  rcases hf with rfl | rfl
  · exact .str
  · exact .str

/-- A report as data holds no numbers, and is nested four deep at most. -/
theorem readable_toJson (r : RunReport) : Readable 4 r.toJson := by
  have hstrings : ∀ items : List String, Readable 3 (.arr (items.map .str)) :=
    Json.readable_strings 2
  have hentries : ∀ items : List Json, (∀ v ∈ items, Readable 2 v) → Readable 3 (.arr items) :=
    fun _ => .arr
  have hsome : ∀ (key : String) (items : List Json), Readable 3 (.arr items) →
      ∀ f ∈ (if items.isEmpty then [] else [(key, Json.arr items)]), Readable 3 f.2 := by
    intro key items hitems f hf
    split at hf
    · cases hf
    · rw [List.mem_singleton.1 hf]
      exact hitems
  unfold toJson
  refine .obj fun f hf => ?_
  simp only [List.mem_append] at hf
  rcases hf with ((((hf | hf) | hf) | hf) | hf) | hf
  · simp only [List.mem_cons, List.not_mem_nil, or_false] at hf
    rcases hf with rfl | rfl
    · exact .str
    · exact .str
  · exact hsome _ _ (hstrings _) f hf
  · exact hsome _ _ (hstrings _) f hf
  · rw [List.mem_singleton.1 hf]
    refine .arr fun v hv => ?_
    obtain ⟨d, -, rfl⟩ := List.mem_map.1 hv
    exact d.readable_toJson
  · refine hsome _ _ (hentries _ fun v hv => ?_) f hf
    obtain ⟨w, -, rfl⟩ := List.mem_map.1 hv
    exact readable_entry _ _
  · refine hsome _ _ (hentries _ fun v hv => ?_) f hf
    obtain ⟨e, -, rfl⟩ := List.mem_map.1 hv
    exact readable_entry _ _

theorem status_toJson (r : RunReport) : r.toJson.field? "status" = some (.str r.status.name) := by
  rfl

end RunReport

theorem Cli.readable_failureJson (e : Failure) : Readable 4 (Cli.failureJson e) := by
  refine .obj fun f hf => ?_
  simp only [List.mem_cons, List.not_mem_nil, or_false] at hf
  rcases hf with rfl | rfl | rfl
  · exact .str
  · exact .arr nofun
  · exact .str

theorem Cli.status_failureJson (e : Failure) :
    (Cli.failureJson e).field? "status" = some (.str RunStatus.error.name) := by
  rfl

/-! ## Runs -/

/-- The report of a run fails exactly when one of its documents does. -/
theorem RunWorld.status_generate {w : RunWorld} {o : RunOptions} {cancelled : Bool}
    {report : RunReport} (h : (w.generate o cancelled).report = .ok report) :
    report.status = .error ↔ ∃ d ∈ report.documents, d.status = .error := by
  unfold RunWorld.generate RunWorld.generateBy at h
  cases hload : w.load o with
  | error e => simp [hload] at h
  | ok loaded =>
    simp only [hload] at h
    split at h
    · obtain rfl := Except.ok.inj h
      exact RunReport.status_ofDocuments _ _ _ _ _
    · obtain rfl := Except.ok.inj h
      exact RunReport.status_ofDocuments _ _ _ _ _

namespace Cli

/-- What a run is asked for, with what the command says of the output directory and of the number of
documents at once. -/
def generateOptions (o : RunOptions) (outputDir : Option String) (concurrency : Option Nat) :
    RunOptions :=
  { o with
    outputDir := outputDir.getD o.outputDir
    concurrency := (concurrency.map fun n => Nat.max n 1).getD o.concurrency }

theorem printed_singleton (line : String) : Outcome.printed [line] = line ++ "\n" := by
  simp [Outcome.printed, String.join]

variable {w : RunWorld} {c : ConfigChoice} {o : RunOptions} {reason : String}

theorem runGenerate_of_error (h : runOptions w c = .error reason) (json : Bool)
    (outputDir : Option String) (concurrency : Option Nat) :
    runGenerate w c json outputDir concurrency = .ofFailure w.storage reason := by
  rw [runGenerate, h]

theorem runGenerate_of_ok (h : runOptions w c = .ok o) (json : Bool) (outputDir : Option String)
    (concurrency : Option Nat) :
    runGenerate w c json outputDir concurrency =
      let run := w.generate (generateOptions o outputDir concurrency) false
      match run.report with
      | .error e =>
        ⟨run.storage, if json then (failureJson e).pretty ++ "\n" else "", some e.message⟩
      | .ok report =>
        if json then ⟨run.storage, report.toJson.pretty ++ "\n", none⟩
        else
          ⟨run.storage, Outcome.printed (summaryLines report),
            if report.hasErrors then some report.message else none⟩ := by
  rw [runGenerate, h]
  simp only [Outcome.ofLines, printed_singleton, RunReport.text]
  rfl

/-- A run has failed: it came to no report, or to one on which some document has failed. -/
def HasFailed (run : RunOutcome) : Prop :=
  (∃ e, run.report = .error e) ∨
    ∃ report, run.report = .ok report ∧ ∃ d ∈ report.documents, d.status = .error

/-- What is printed of a run as data is one object with a status. As data the command fails where
there is no report, in lines wherever the status is an error. -/
structure Agrees (run : RunOutcome) (json plain : Outcome) : Prop where
  object : ∃ (fields : List (String × Json)) (status : RunStatus),
    Json.read json.output = (Node.ofJson (.obj fields), none) ∧
    (Json.obj fields).field? "status" = some (.str status.name) ∧
    (status = .error ↔ HasFailed run) ∧ (plain.failure ≠ none ↔ status = .error)
  failure : json.failure ≠ none ↔ ∃ e, run.report = .error e

theorem read_object {j : Json} (h : Readable 4 j) (hobj : ∃ fields, j = .obj fields)
    {status : RunStatus} (hstatus : j.field? "status" = some (.str status.name)) :
    ∃ fields, Json.read (j.pretty ++ "\n") = (Node.ofJson (.obj fields), none) ∧
      (Json.obj fields).field? "status" = some (.str status.name) := by
  obtain ⟨fields, rfl⟩ := hobj
  exact ⟨fields, Json.read_pretty h (by decide), hstatus⟩

theorem agrees_of_ok (h : runOptions w c = .ok o) (outputDir : Option String)
    (concurrency : Option Nat) :
    Agrees (w.generate (generateOptions o outputDir concurrency) false)
      (runGenerate w c true outputDir concurrency)
      (runGenerate w c false outputDir concurrency) := by
  rw [runGenerate_of_ok h, runGenerate_of_ok h]
  generalize hrun : w.generate (generateOptions o outputDir concurrency) false = run
  cases hreport : run.report with
  | error e =>
    obtain ⟨fields, hread, hstatus⟩ :=
      read_object (readable_failureJson e) ⟨_, rfl⟩ (status_failureJson e)
    refine ⟨⟨fields, .error, ?_, hstatus, ?_, ?_⟩, ?_⟩
    · simpa [hreport] using hread
    · exact iff_of_true rfl (.inl ⟨e, hreport⟩)
    · simp [hreport]
    · simp [hreport]
  | ok report =>
    obtain ⟨fields, hread, hstatus⟩ :=
      read_object report.readable_toJson ⟨_, rfl⟩ report.status_toJson
    have hfailed : report.status = .error ↔ ∃ d ∈ report.documents, d.status = .error :=
      RunWorld.status_generate (hrun ▸ hreport)
    refine ⟨⟨fields, report.status, ?_, hstatus, ?_, ?_⟩, ?_⟩
    · simpa [hreport] using hread
    · simpa [HasFailed, hreport] using hfailed
    · simp [hreport, RunReport.hasErrors]
    · simp [hreport]

/-- Compiling all documents leaves the same files whether it tells of them as data or in lines. As
data it prints one object exactly when the settings can be read and the work directory is one; then
the object's status is an error where the run has failed, and so does the command in lines. Without
settings or a work directory it fails either way, without having printed anything. -/
theorem runGenerate_modes (w : RunWorld) (c : ConfigChoice) (outputDir : Option String)
    (concurrency : Option Nat) :
    let json := runGenerate w c true outputDir concurrency
    let plain := runGenerate w c false outputDir concurrency
    json.storage = plain.storage ∧
    ((∃ fields, Json.read json.output = (Node.ofJson (.obj fields), none)) ↔
      ∃ o, runOptions w c = .ok o) ∧
    match runOptions w c with
    | .ok o => Agrees (w.generate (generateOptions o outputDir concurrency) false) json plain
    | .error reason =>
      json = .ofFailure w.storage reason ∧ plain = .ofFailure w.storage reason := by
  intro json plain
  cases h : runOptions w c with
  | error reason =>
    have hjson : json = .ofFailure w.storage reason := runGenerate_of_error h _ _ _
    have hplain : plain = .ofFailure w.storage reason := runGenerate_of_error h _ _ _
    refine ⟨hjson ▸ hplain ▸ rfl, iff_of_false ?_ nofun, hjson, hplain⟩
    rintro ⟨fields, hread⟩
    rw [hjson] at hread
    cases hread
  | ok o =>
    have hagrees := agrees_of_ok h outputDir concurrency
    refine ⟨?_, iff_of_true ?_ ⟨o, rfl⟩, hagrees⟩
    · show (runGenerate w c true outputDir concurrency).storage =
        (runGenerate w c false outputDir concurrency).storage
      rw [runGenerate_of_ok h, runGenerate_of_ok h]
      dsimp only
      cases (w.generate (generateOptions o outputDir concurrency) false).report <;> rfl
    · obtain ⟨⟨fields, status, hread, -⟩, -⟩ := hagrees
      exact ⟨fields, hread⟩

/-- A world without files, for a user with a home. -/
def housed : RunWorld := { Pool.still with env := SortedMap.empty.insert "HOME" "/h" }

theorem housed_start :
    housed.storage.start (Settings.file "/h") = ([], ["", "h", ".ctxgen", "ctxgen.toml"]) := by
  decide +kernel

theorem housed_settings :
    Settings.load (.usual housed.machine.processors) housed.storage housed.env =
      .ok (.usual 1) := by
  have hhome : Settings.homeFor housed.env = .ok "/h" := by cbv
  have hpath : (Settings.file "/h" == "") = false := by decide +kernel
  have hmissing : housed.storage.follow true Storage.linkLimit
      ["", "h", ".ctxgen", "ctxgen.toml"] [] = .error .missing := by cbv
  have hnone : housed.storage.isThere (Settings.file "/h") = false := by
    unfold Storage.isThere Storage.entryAt Storage.locate
    rw [hpath, housed_start]
    simp only [hmissing]
    rfl
  unfold Settings.load
  simp only [hhome, hnone, bind, Except.bind]
  rfl

/-- The command for a work directory that is missing fails without an object that says so. -/
theorem missing_workDir_prints_nothing :
    let json := runGenerate housed ⟨none, none, some "missing", none⟩ true none none
    json.failure = some "work dir 'missing' is not a directory" ∧ json.output = "" ∧
      ¬ ∃ fields, Json.read json.output = (Node.ofJson (.obj fields), none) := by
  intro json
  have hstart : housed.storage.start "missing" = ([], ["missing"]) := by decide +kernel
  have hfollow : housed.storage.follow true Storage.linkLimit ["missing"] [] =
      .error .missing := by cbv
  have hmissing : housed.storage.isDirectory "missing" = false := by
    unfold Storage.isDirectory Storage.entryAt Storage.locate
    rw [hstart]
    simp only [hfollow]
    rfl
  have hoptions : runOptions housed ⟨none, none, some "missing", none⟩ =
      .error "work dir 'missing' is not a directory" := by
    unfold runOptions
    rw [housed_settings]
    simp only [Except.mapError, bind, Except.bind, Option.getD_some, hmissing]
    rfl
  have hjson : json = .ofFailure housed.storage "work dir 'missing' is not a directory" :=
    runGenerate_of_error hoptions _ _ _
  rw [hjson]
  refine ⟨rfl, rfl, ?_⟩
  rintro ⟨fields, hread⟩
  cases hread

/-- In the root directory the command finds no configuration, and an object says so. -/
theorem root_workDir_prints_object :
    let json := runGenerate housed ⟨none, none, none, none⟩ true none none
    ∃ fields, Json.read json.output = (Node.ofJson (.obj fields), none) := by
  have hroot : housed.storage.isDirectory housed.storage.workDir.path = true := by cbv
  have hoptions : ∃ o, runOptions housed ⟨none, none, none, none⟩ = .ok o := by
    unfold runOptions
    rw [housed_settings]
    simp only [Except.mapError, bind, Except.bind, Option.getD_none, hroot]
    exact ⟨_, rfl⟩
  exact (runGenerate_modes housed ⟨none, none, none, none⟩ none none).2.1.2 hoptions

end Cli

end ContextCompiler
