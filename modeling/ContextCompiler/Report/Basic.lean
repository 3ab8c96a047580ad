import ContextCompiler.Failure
import ContextCompiler.Json.Printer

/-!
Reports: how a run went, and what became of each document.

A run fails as soon as one document does. A report is written as indented data, and the lists of
what there is none of are left out.

Errors that do not end the work are gathered in logs.
-/

namespace ContextCompiler

/-! ## Logs of errors -/

/-- An error, and the part of the work that it befell. -/
structure LoggedError where
  scope : String
  message : String
  deriving DecidableEq, Repr

/-- Errors in the order in which they came up. -/
structure ErrorLog where
  entries : List LoggedError
  deriving DecidableEq, Repr

namespace LoggedError

/-- An error on one line. -/
def line (e : LoggedError) : String := "[" ++ e.scope ++ "] " ++ e.message

end LoggedError

namespace ErrorLog

/-- The log without errors. -/
def empty : ErrorLog := ⟨[]⟩

/-- Adds an error. -/
def add (l : ErrorLog) (scope message : String) : ErrorLog := ⟨l.entries ++ [⟨scope, message⟩]⟩

/-- Adds the errors of another log. -/
def append (l other : ErrorLog) : ErrorLog := ⟨l.entries ++ other.entries⟩

/-- The number of errors. -/
def size (l : ErrorLog) : Nat := l.entries.length

/-- Whether there are errors. -/
def hasErrors (l : ErrorLog) : Bool := !l.entries.isEmpty

/-- What the errors say. -/
def messages (l : ErrorLog) : List String := l.entries.map LoggedError.message

@[simp] theorem empty_append (l : ErrorLog) : empty.append l = l := rfl

@[simp] theorem append_empty (l : ErrorLog) : l.append empty = l := by
  simp [append, empty]

theorem append_assoc (l m n : ErrorLog) : (l.append m).append n = l.append (m.append n) := by
  simp [append]

@[simp] theorem messages_append (l other : ErrorLog) :
    (l.append other).messages = l.messages ++ other.messages := by
  simp [messages, append]

@[simp] theorem messages_add (l : ErrorLog) (scope message : String) :
    (l.add scope message).messages = l.messages ++ [message] := by
  simp [messages, add]

@[simp] theorem hasErrors_add (l : ErrorLog) (scope message : String) :
    (l.add scope message).hasErrors = true := by
  simp [hasErrors, add]

end ErrorLog

/-! ## Reports -/

/-- How a run went. -/
inductive RunStatus where
  | success
  | error
  deriving DecidableEq, Repr

/-- What became of a document. -/
inductive DocumentStatus where
  | success
  | error
  /-- A file was there before the run and had to be kept. -/
  | skipped
  deriving DecidableEq, Repr

/-- The report on one document. -/
structure DocumentReport where
  /-- The output directory of the run. -/
  contextPath : String
  outputPath : String
  status : DocumentStatus
  errors : List String
  deriving DecidableEq, Repr

/-- The report on a run. -/
structure RunReport where
  status : RunStatus
  message : String
  imports : List String
  prompts : List String
  documents : List DocumentReport
  warnings : List Warning
  errors : ErrorLog
  deriving DecidableEq, Repr

namespace RunStatus

/-- The name of a status. -/
def name : RunStatus → String
  | success => "success"
  | error => "error"

end RunStatus

namespace DocumentStatus

/-- The name of a status. -/
def name : DocumentStatus → String
  | success => "success"
  | error => "error"
  | skipped => "skipped"

end DocumentStatus

namespace DocumentReport

/-- The report as data. -/
def toJson (d : DocumentReport) : Json :=
  .obj [("context_path", .str d.contextPath), ("output_path", .str d.outputPath),
    ("status", .str d.status.name), ("errors", .arr (d.errors.map .str))]

end DocumentReport

namespace RunReport

/-- How many documents failed. -/
def failedCount (documents : List DocumentReport) : Nat :=
  documents.countP fun d => d.status == .error

/-- How a run went by its documents, in words. -/
def summary (documents : List DocumentReport) : String :=
  if documents.isEmpty then "No documents found in configuration."
  else
    match failedCount documents with
    | 0 => "Documents compiled successfully"
    | n + 1 =>
      toString (n + 1) ++ " of " ++ toString documents.length ++ " documents had errors"

/-- The report on a run, by its documents. -/
def ofDocuments (imports prompts : List String) (documents : List DocumentReport)
    (warnings : List Warning) (errors : ErrorLog) : RunReport where
  status := if failedCount documents == 0 then .success else .error
  message := summary documents
  imports := imports
  prompts := prompts
  documents := documents
  warnings := warnings
  errors := errors

/-- Whether the run failed. -/
def hasErrors (r : RunReport) : Bool := r.status == .error

/-- An entry that names a part of the work and says something of it, as data. -/
def entry (scope message : String) : Json := .obj [("scope", .str scope), ("message", .str message)]

/-- The report as data. -/
def toJson (r : RunReport) : Json :=
  let some? (key : String) (items : List Json) : List (String × Json) :=
    if items.isEmpty then [] else [(key, .arr items)]
  .obj ([("status", .str r.status.name), ("message", .str r.message)]
    ++ some? "imports" (r.imports.map .str)
    ++ some? "prompts" (r.prompts.map .str)
    ++ [("result", .arr (r.documents.map DocumentReport.toJson))]
    ++ some? "warnings" (r.warnings.map fun w => entry w.scope w.message)
    ++ some? "errors" (r.errors.entries.map fun e => entry e.scope e.message))

/-- The report as text. -/
def text (r : RunReport) : String := r.toJson.pretty

/-- A run fails when one of its documents does, and only then. -/
theorem hasErrors_ofDocuments (imports prompts : List String) (documents : List DocumentReport)
    (warnings : List Warning) (errors : ErrorLog) :
    (ofDocuments imports prompts documents warnings errors).hasErrors = true ↔
      ∃ d ∈ documents, d.status = .error := by
  by_cases h : failedCount documents = 0
  · simp only [hasErrors, ofDocuments, h, beq_self_eq_true, if_true]
    simp only [failedCount, List.countP_eq_zero, beq_iff_eq] at h
    constructor
    · intro c
      cases c
    · rintro ⟨d, m, e⟩
      exact absurd e (h d m)
  · have : (failedCount documents == 0) = false := by simp [h]
    simp only [hasErrors, ofDocuments, this, Bool.false_eq_true, if_false]
    simp only [failedCount, List.countP_eq_zero, beq_iff_eq] at h
    simpa using h

end RunReport

end ContextCompiler
