import Mathlib
import ContextCompiler.Proofs.Generate.Containment

/-!
What the report of a run says.

Errors come up while a document is compiled, when its path is refused, when the run is called off
and when its file cannot be written. Whichever of these befall a document, its entry and the errors
of the run tell of the same ones (`IsReportOn`), and the status of the run follows from either
(`report_agrees`).
-/

namespace ContextCompiler

variable {root : String} {before s : Storage} {docs : List CompiledDocument} {d : CompiledDocument}

/-- An entry for a document, and what its errors add to those of the run. Writing adds one error to
those of compiling at most, and the entry fails exactly when it has errors. -/
structure DocumentReport.IsReportOn (root : String) (d : CompiledDocument) (r : DocumentReport)
    (log : ErrorLog) : Prop where
  contextPath : r.contextPath = root
  outputPath : r.outputPath = d.outputPath
  added : log = d.errors ∨ ∃ message, log = d.errors.add d.outputPath message
  errors : r.errors = log.messages
  status : r.status = .error ↔ r.errors ≠ []

namespace ErrorLog

theorem hasErrors_iff (l : ErrorLog) : l.hasErrors = true ↔ l.messages ≠ [] := by
  simp [hasErrors, messages]

theorem length_messages (l : ErrorLog) : l.messages.length = l.entries.length :=
  List.length_map _

end ErrorLog

namespace CompiledDocument

/-! ## One document -/

theorem isReportOn_report {log : ErrorLog} (skipped : Bool)
    (h : log = d.errors ∨ ∃ message, log = d.errors.add d.outputPath message) :
    (d.report root log skipped).1.IsReportOn root d (d.report root log skipped).2 where
  contextPath := rfl
  outputPath := rfl
  added := h
  errors := rfl
  status := by
    show (if log.hasErrors then DocumentStatus.error
      else if skipped then .skipped else .success) = .error ↔ log.messages ≠ []
    rw [← log.hasErrors_iff]
    cases log.hasErrors <;> cases skipped <;> decide

theorem isReportOn_write (d : CompiledDocument) (root : String) (before : Storage)
    (cancelled : Bool) (s : Storage) :
    let written := d.write root before cancelled s
    written.2.1.IsReportOn root d written.2.2 := by
  unfold write
  cases Output.resolve root d.outputPath with
  | error e => exact isReportOn_report false (.inr ⟨_, rfl⟩)
  | ok target =>
    dsimp only
    split
    · exact isReportOn_report false (.inr ⟨_, rfl⟩)
    · split
      · exact isReportOn_report true (.inl rfl)
      · split
        · exact isReportOn_report false (.inl rfl)
        · exact isReportOn_report false (.inr ⟨_, rfl⟩)

/-! ## All documents -/

/-- A run has one entry for each document, in order, and its errors are theirs. -/
theorem exists_entries (root : String) (before : Storage) (left : Option Nat) (s : Storage)
    (docs : List CompiledDocument) :
    ∃ entries : List (DocumentReport × ErrorLog),
      List.Forall₂ (fun d e => e.1.IsReportOn root d e.2) docs entries ∧
      (writeAll root before left s docs).2.1 = entries.map Prod.fst ∧
      (writeAll root before left s docs).2.2.entries = entries.flatMap (·.2.entries) := by
  induction docs generalizing left s with
  | nil => exact ⟨[], .nil, rfl, rfl⟩
  | cons d rest ih =>
    have hfirst := d.isReportOn_write root before (left == some 0) s
    obtain ⟨entries, hentries, hreports, herrors⟩ :=
      ih (left.map (· - 1)) (d.write root before (left == some 0) s).1
    refine ⟨(d.write root before (left == some 0) s).2 :: entries, .cons hfirst hentries, ?_, ?_⟩
    · rw [writeAll_cons, List.map_cons, ← hreports]
    · rw [writeAll_cons, List.flatMap_cons, ← herrors]
      rfl

/-- The errors of a run are those of its entries, one after the other. -/
theorem messages_writeAll (root : String) (before : Storage) (left : Option Nat) (s : Storage)
    (docs : List CompiledDocument) :
    (writeAll root before left s docs).2.2.messages =
      (writeAll root before left s docs).2.1.flatMap (·.errors) := by
  obtain ⟨entries, hentries, hreports, herrors⟩ := exists_entries root before left s docs
  have heach : ∀ e ∈ entries, e.1.errors = e.2.messages :=
    ((List.forall₂_and_left _ _).1 (hentries.flip.imp fun _ _ h => ⟨h.errors, h⟩)).1
  rw [ErrorLog.messages, herrors, hreports, List.map_flatMap, List.flatMap_map]
  exact List.flatMap_congr fun e he => (heach e he).symm

/-- An entry fails exactly when it has errors. -/
theorem status_of_mem_writeAll {left : Option Nat} {r : DocumentReport}
    (hr : r ∈ (writeAll root before left s docs).2.1) : r.status = .error ↔ r.errors ≠ [] := by
  obtain ⟨entries, hentries, hreports, -⟩ := exists_entries root before left s docs
  have heach : ∀ e ∈ entries, e.1.status = .error ↔ e.1.errors ≠ [] :=
    ((List.forall₂_and_left _ _).1 (hentries.flip.imp fun _ _ h => ⟨h.status, h⟩)).1
  rw [hreports] at hr
  obtain ⟨e, he, rfl⟩ := List.mem_map.1 hr
  exact heach e he

theorem exists_failed_iff (root : String) (before : Storage) (left : Option Nat) (s : Storage)
    (docs : List CompiledDocument) :
    (∃ r ∈ (writeAll root before left s docs).2.1, r.status = .error) ↔
      (writeAll root before left s docs).2.2.entries ≠ [] := by
  rw [← List.length_pos_iff, ← ErrorLog.length_messages, List.length_pos_iff, messages_writeAll,
    Ne, List.flatMap_eq_nil_iff, not_forall]
  refine exists_congr fun r => ?_
  rw [Classical.not_imp]
  exact and_congr_right status_of_mem_writeAll

end CompiledDocument

namespace RunReport

theorem status_ofDocuments (imports prompts : List String) (documents : List DocumentReport)
    (warnings : List Warning) (errors : ErrorLog) :
    (ofDocuments imports prompts documents warnings errors).status = .error ↔
      ∃ d ∈ documents, d.status = .error := by
  rw [← hasErrors_ofDocuments imports prompts documents warnings errors, hasErrors, beq_iff_eq]

/-- The message of a run counts the entries that failed. -/
theorem message_ofDocuments (imports prompts : List String) (documents : List DocumentReport)
    (warnings : List Warning) (errors : ErrorLog) :
    let report := ofDocuments imports prompts documents warnings errors
    report.message =
      if documents = [] then "No documents found in configuration."
      else if report.status = .error then
        toString (documents.countP (·.status = .error)) ++ " of " ++ toString documents.length ++
          " documents had errors"
      else "Documents compiled successfully" := by
  have hcount : documents.countP (·.status = .error) = failedCount documents :=
    List.countP_congr fun d _ => by simp
  dsimp only [ofDocuments, summary]
  simp only [hcount, List.isEmpty_iff]
  split
  · rfl
  · cases failedCount documents <;> rfl

/-- The report of a run has one entry for each document, in order, and its errors are those of the
entries one after the other. An entry fails exactly when it has errors, and the run fails exactly
when an entry does, which is when there are errors; its message then counts the entries that
failed. That is so whenever the run is called off, if it is. -/
theorem report_agrees (root : String) (before : Storage) (left : Option Nat) (s : Storage)
    (docs : List CompiledDocument) (imports prompts : List String) (warnings : List Warning) :
    let written := CompiledDocument.writeAll root before left s docs
    let report := ofDocuments imports prompts written.2.1 warnings written.2.2
    (∃ entries : List (DocumentReport × ErrorLog),
      List.Forall₂ (fun d e => e.1.IsReportOn root d e.2) docs entries ∧
      report.documents = entries.map Prod.fst ∧
      report.errors.entries = entries.flatMap (·.2.entries)) ∧
    report.errors.messages = report.documents.flatMap (·.errors) ∧
    report.errors.size = (report.documents.map (·.errors.length)).sum ∧
    (report.status = .error ↔ ∃ r ∈ report.documents, r.status = .error) ∧
    (report.status = .error ↔ report.errors.entries ≠ []) ∧
    report.message =
      if docs = [] then "No documents found in configuration."
      else if report.status = .error then
        toString (report.documents.countP (·.status = .error)) ++ " of " ++
          toString docs.length ++ " documents had errors"
      else "Documents compiled successfully" := by
  intro written report
  have hmessages := CompiledDocument.messages_writeAll root before left s docs
  have hstatus := status_ofDocuments imports prompts written.2.1 warnings written.2.2
  have hlength : written.2.1.length = docs.length :=
    CompiledDocument.length_reports root before left s docs
  refine ⟨CompiledDocument.exists_entries root before left s docs, hmessages, ?_, hstatus,
    hstatus.trans (CompiledDocument.exists_failed_iff root before left s docs), ?_⟩
  · calc report.errors.size
        = written.2.2.messages.length := written.2.2.length_messages.symm
      _ = (report.documents.map (·.errors.length)).sum := by
          rw [hmessages, List.length_flatMap]
          rfl
  · have hmessage := message_ofDocuments imports prompts written.2.1 warnings written.2.2
    have hnil : written.2.1 = [] ↔ docs = [] := by
      rw [← List.length_eq_zero_iff, ← List.length_eq_zero_iff, hlength]
    simp only [hnil, hlength] at hmessage
    exact hmessage

/-- A file that is kept does not make up for a source that failed. -/
example :
    let kept : Storage := ⟨[(["o"], .directory), (["o", "a.md"], .file [])], []⟩
    let d : CompiledDocument := ⟨"a.md", false, "", ⟨[⟨"a.md#source[0]", "fetch error: gone"⟩]⟩⟩
    (CompiledDocument.writeAll "/o" kept none kept [d]).2.1 =
      [⟨"/o", "a.md", .error, ["fetch error: gone"]⟩] := by
  cbv

end RunReport

end ContextCompiler
