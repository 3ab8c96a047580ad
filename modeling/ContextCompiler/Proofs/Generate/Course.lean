import Mathlib
import ContextCompiler.Generate.Course
import ContextCompiler.Proofs.Generate.Cutoff
import ContextCompiler.Proofs.Generate.Report

/-!
Calling off a run at any moment.

A run that is called off goes on to its end, but does nothing more on the way. What that means for
the sources of its documents is read off its pool (`Runs.pool`), which sees the signal at once. What
it means for files is kept up step by step: before the signal writing is that of
`CompiledDocument.writeAll` (`IsKept`), and after it nothing is written (`Leaves`). A run that is
never called off is the one of `RunWorld.generate` (`Runs.eq_generate`).
-/

namespace ContextCompiler

variable {c : DocumentCompiler} {scope : Scope} {root : String} {before : Storage}
  {documents : List PlacedDocument} {n : Nat} {p : PlacedDocument}

open DocumentCompiler (Fetched cutOff)

/-! ## Writing -/

namespace CompiledDocument

variable {d : CompiledDocument} {docs : List CompiledDocument}

/-- Once a run is called off a document is not written, and its report says that it failed. -/
theorem write_cancelled (d : CompiledDocument) (root : String) (before s : Storage) :
    (d.write root before true s).1 = s ∧ (d.write root before true s).2.1.status = .error := by
  unfold write
  cases Output.resolve root d.outputPath <;> exact ⟨rfl, by simp [report]⟩

/-- A run that goes on with one document more. -/
theorem writeAll_concat_of (root : String) (before s : Storage) {left : Option Nat}
    (hleft : ∀ k, left = some k → k ≤ docs.length) (d : CompiledDocument) :
    writeAll root before left s (docs ++ [d]) =
      let first := writeAll root before left s docs
      let last := d.write root before left.isSome first.1
      (last.1, first.2.1 ++ [last.2.1], first.2.2.append last.2.2) := by
  have hlast : (left.map (· - docs.length) == some 0) = left.isSome := by
    cases left with
    | none => rfl
    | some k => simp [hleft k rfl]
  rw [writeAll_append]
  simp only [hlast, writeAll, ErrorLog.append_empty]

end CompiledDocument

namespace Course

variable {first mid last r r' : Course} {happened later : List Happening} {w : Writing}
  {initial : Storage} {traffic : Traffic}

theorem Runs.cons {h : Happening} (hstep : Step c scope root before first h r)
    (hruns : Runs c scope root before r happened last) :
    Runs c scope root before first (h :: happened) last := by
  induction hruns with
  | refl => exact Runs.refl.step hstep
  | step _ hlast ih => exact ih.step hlast

theorem Runs.trans (hruns : Runs c scope root before first happened mid)
    (hmore : Runs c scope root before mid later last) :
    Runs c scope root before first (happened ++ later) last := by
  induction hmore with
  | refl => rwa [List.append_nil]
  | step _ hlast ih =>
    rw [← List.append_assoc]
    exact ih.step hlast

/-! ## The pool of a run -/

/-- The pool sees whether the signal has fired. -/
def IsHeeded (r : Course) : Prop := r.pool.shared.traffic.cancelled = r.signal.isCancelled

theorem isHeeded_heed (r : Course) (signal : Cancellation) : (r.heed signal).IsHeeded := rfl

/-- What is done to a signal is one event for the pool, or none. -/
theorem IsHeeded.pool_heed (h : r.IsHeeded) {signal : Cancellation}
    (hkeeps : r.signal.isCancelled = true → signal.isCancelled = true) :
    (r.heed signal).pool = r.pool ∨ r.pool.Step c scope .cancel (r.heed signal).pool := by
  cases hsignal : signal.isCancelled with
  | true =>
    right
    have hpool : (r.heed signal).pool = { r.pool with shared.traffic.cancelled := true } := by
      rw [heed, hsignal]
    rw [hpool]
    exact .cancel
  | false =>
    left
    have hfalse : r.pool.shared.traffic.cancelled = false := by
      rw [h]
      cases hfired : r.signal.isCancelled with
      | false => rfl
      | true => exact absurd ((hkeeps hfired).symm.trans hsignal) Bool.noConfusion
    rw [heed, hsignal, ← hfalse]

/-- The pool of a run goes on when documents are compiled. What else happens is nothing to it, or
calls it off. -/
theorem Step.pool {h : Happening} (hstep : Step c scope root before r h r')
    (hc : c.fetchers.Quiet) (hheeded : r.IsHeeded) :
    r'.IsHeeded ∧
      ((∃ e, h = .compile e ∧ e ≠ .cancel ∧ r.pool.Step c scope e r'.pool) ∨
        (∀ e, h ≠ .compile e) ∧ (r'.pool = r.pool ∨ r.pool.Step c scope .cancel r'.pool)) := by
  cases hstep with
  | fire =>
    refine ⟨isHeeded_heed _ _, .inr ⟨by simp, hheeded.pool_heed fun hfired => ?_⟩⟩
    simp [Cancellation.cancel, hfired]
  | dropHandle => exact ⟨isHeeded_heed _ _, .inr ⟨by simp, hheeded.pool_heed id⟩⟩
  | @compile e pool _ he hmove =>
    have hcancelled := hmove.cancelled_eq hc
    refine ⟨?_, .inl ⟨e, rfl, he, hmove⟩⟩
    unfold IsHeeded at hheeded ⊢
    simpa [he, hheeded] using hcancelled
  | turn => exact ⟨hheeded, .inr ⟨by simp, .inl rfl⟩⟩
  | write => exact ⟨hheeded, .inr ⟨by simp, .inl rfl⟩⟩

theorem count_compile_concat {h : Happening} (hother : ∀ e, h ≠ .compile e) (e : Event) :
    (happened ++ [h]).count (.compile e) = happened.count (.compile e) := by
  rw [List.count_append, List.count_singleton, if_neg (by simpa using hother e), Nat.add_zero]

/-- What has happened to a run has happened to its pool. -/
theorem Runs.pool (hruns : Runs c scope root before first happened last)
    (hc : c.fetchers.Quiet) (hfirst : first.IsHeeded) :
    last.IsHeeded ∧ ∃ events, Pool.Runs c scope first.pool events last.pool ∧
      ∀ i m, events.count (.move i m) = happened.count (.compile (.move i m)) := by
  induction hruns with
  | refl => exact ⟨hfirst, [], .refl, fun _ _ => rfl⟩
  | @step happened h r r' _ hstep ih =>
    obtain ⟨hheeded, events, hpool, hcount⟩ := ih
    obtain ⟨hheeded', hmoved⟩ := hstep.pool hc hheeded
    refine ⟨hheeded', ?_⟩
    rcases hmoved with ⟨e, rfl, -, hmove⟩ | ⟨hother, hsame | hcancel⟩
    · refine ⟨events ++ [e], hpool.step hmove, fun i m => ?_⟩
      rw [List.count_append, List.count_append, hcount, List.count_singleton,
        List.count_singleton]
      simp
    · refine ⟨events, hsame ▸ hpool, fun i m => ?_⟩
      rw [hcount, count_compile_concat hother]
    · refine ⟨events ++ [.cancel], hpool.step hcancel, fun i m => ?_⟩
      rw [Pool.count_concat_of_ne (by simp), hcount, count_compile_concat hother]

/-! ## What is written -/

/-- What a run has written so far. It is all that one after the other comes to, where the run is
called off after some of the documents or not at all. -/
structure IsWriting (root : String) (before : Storage) (r : Course) (w : Writing)
    (written : List CompiledDocument) (left : Option Nat) : Prop where
  done : r.pool.IsDone
  collected : r.pool.collected = written ++ w.left
  isSome : left.isSome = r.signal.isCancelled
  left_le : ∀ k, left = some k → k ≤ written.length
  eq : CompiledDocument.writeAll root before left before written = (r.storage, w.reports, w.errors)

/-- Nothing is written before all documents are compiled, and then one after the other. -/
structure IsKept (root : String) (before : Storage) (r : Course) : Prop where
  compiling : r.writing = none → r.storage = before
  writing : ∀ w, r.writing = some w → ∃ written left, r.IsWriting root before w written left

namespace IsKept

theorem heed (h : r.IsKept root before) {signal : Cancellation}
    (hkeeps : r.signal.isCancelled = true → signal.isCancelled = true) :
    (r.heed signal).IsKept root before where
  compiling := h.compiling
  writing w hw := by
    obtain ⟨written, left, hdone, hcollected, hsome, hle, heq⟩ := h.writing w hw
    cases left with
    | some k => exact ⟨written, some k, hdone, hcollected, (hkeeps hsome.symm).symm, hle, heq⟩
    | none =>
      cases hsignal : signal.isCancelled with
      | false => exact ⟨written, none, hdone, hcollected, hsignal.symm, hle, heq⟩
      | true =>
        -- the signal fires after the documents that are written by now
        refine ⟨written, some written.length, hdone, hcollected, hsignal.symm, ?_, ?_⟩
        · intro k hk
          cases hk
          exact Nat.le_refl _
        · rw [CompiledDocument.writeAll_of_length_le (Nat.le_refl _)]
          exact heq

theorem step {h : Happening} (hkept : r.IsKept root before)
    (hstep : Step c scope root before r h r') : r'.IsKept root before := by
  cases hstep with
  | fire => exact hkept.heed fun hfired => by simp [Cancellation.cancel, hfired]
  | dropHandle => exact hkept.heed id
  | compile hnone =>
    exact ⟨hkept.compiling, fun w hw => absurd (hw.symm.trans hnone) (Option.some_ne_none w)⟩
  | turn hnone hdone =>
    refine ⟨fun hnone' => absurd hnone' (Option.some_ne_none _), ?_⟩
    rintro _ ⟨⟩
    cases hfired : r.signal.isCancelled with
    | false =>
      exact ⟨[], none, hdone, rfl, hfired.symm, by simp, by rw [← hkept.compiling hnone]; rfl⟩
    | true =>
      refine ⟨[], some 0, hdone, rfl, hfired.symm, ?_, by rw [← hkept.compiling hnone]; rfl⟩
      intro k hk
      cases hk
      exact Nat.le_refl _
  | @write d rest reports errors hw =>
    obtain ⟨written, left, hdone, hcollected, hsome, hle, heq⟩ := hkept.writing _ hw
    refine ⟨fun hnone => absurd hnone (Option.some_ne_none _), fun w hw' => ?_⟩
    obtain rfl := Option.some.inj hw'
    refine ⟨written ++ [d], left, hdone, ?_, hsome, ?_, ?_⟩
    · rw [List.append_assoc]
      exact hcollected
    · intro k hk
      rw [List.length_append]
      exact (hle k hk).trans (Nat.le_add_right _ _)
    · rw [CompiledDocument.writeAll_concat_of root before before hle, heq, hsome]

theorem runs (h : first.IsKept root before) (hruns : Runs c scope root before first happened last) :
    last.IsKept root before := by
  induction hruns with
  | refl => exact h
  | step _ hstep ih => exact ih.step hstep

end IsKept

/-! ## After the signal -/

theorem reports_of_none (h : r.writing = none) : r.reports = [] := by
  rw [reports, h]
  rfl

theorem reports_of_some (h : r.writing = some w) : r.reports = w.reports := by
  rw [reports, h]
  rfl

/-- A run that was called off has written nothing more, and has reported failures only. -/
structure Leaves (first last : Course) : Prop where
  fired : last.signal.isCancelled = true
  storage : last.storage = first.storage
  reports : ∃ more, last.reports = first.reports ++ more ∧ ∀ report ∈ more, report.status = .error

theorem Leaves.step {h : Happening} (hleaves : first.Leaves r)
    (hstep : Step c scope root before r h r') : first.Leaves r' := by
  obtain ⟨hfired, hstorage, more, hreports, hfailed⟩ := hleaves
  cases hstep with
  | fire => exact ⟨by simp [heed, Cancellation.cancel, hfired], hstorage, more, hreports, hfailed⟩
  | dropHandle => exact ⟨hfired, hstorage, more, hreports, hfailed⟩
  | compile => exact ⟨hfired, hstorage, more, hreports, hfailed⟩
  | turn hnone =>
    rw [reports_of_none hnone] at hreports
    exact ⟨hfired, hstorage, more, hreports, hfailed⟩
  | @write d rest reports errors hw =>
    obtain ⟨hsame, hstatus⟩ := d.write_cancelled root before r.storage
    rw [reports_of_some hw] at hreports
    rw [hfired]
    refine ⟨hfired, hsame.trans hstorage, more ++ [(d.write root before true r.storage).2.1], ?_,
      ?_⟩
    · rw [← List.append_assoc, ← hreports]
      rfl
    · intro report hreport
      rcases List.mem_append.1 hreport with hmore | hlast
      · exact hfailed report hmore
      · cases List.mem_singleton.1 hlast
        exact hstatus

theorem Runs.leaves (hruns : Runs c scope root before first happened last)
    (hfired : first.signal.isCancelled = true) : first.Leaves last := by
  induction hruns with
  | refl => exact ⟨hfired, rfl, [], by simp, nofun⟩
  | step _ hstep ih => exact ih.step hstep

/-- Without its handle a signal that has not fired never will. -/
theorem Runs.calm (hruns : Runs c scope root before first happened last)
    (hfirst : first.signal = .never) : last.signal = .never := by
  induction hruns with
  | refl => exact hfirst
  | step _ hstep ih =>
    cases hstep with
    | fire => rw [heed, ih]; rfl
    | dropHandle => rw [heed, ih]; rfl
    | compile => exact ih
    | turn => exact ih
    | write => exact ih

/-! ## The end -/

theorem Runs.of_pool {events : List Event} {pool : Pool} (hnone : r.writing = none)
    (hruns : Pool.Runs c scope r.pool events pool) (hcancel : .cancel ∉ events) :
    Runs c scope root before r (events.map .compile) { r with pool := pool } := by
  induction hruns with
  | refl => exact .refl
  | step _ hstep ih =>
    rw [List.mem_append, not_or] at hcancel
    rw [List.map_append]
    exact (ih hcancel.1).step (.compile hnone (fun he => hcancel.2 (by simp [he])) hstep)

/-- The documents that are left are looked at. -/
theorem exists_written (c : DocumentCompiler) (scope : Scope) (root : String) (before : Storage)
    (hw : r.writing = some w) :
    ∃ more last, (∀ h ∈ more, h = .write) ∧ Runs c scope root before r more last ∧
      last.IsOver := by
  obtain ⟨left, reports, errors⟩ := w
  induction left generalizing r reports errors with
  | nil => exact ⟨[], r, nofun, .refl, _, hw, rfl⟩
  | cons d rest ih =>
    obtain ⟨r', hstep, hw'⟩ : ∃ r', Step c scope root before r .write r' ∧
        ∃ reports errors, r'.writing = some ⟨rest, reports, errors⟩ :=
      ⟨_, .write hw, _, _, rfl⟩
    obtain ⟨reports', errors', hw'⟩ := hw'
    obtain ⟨more, last, hmore, hruns, hover⟩ := ih _ _ hw'
    refine ⟨.write :: more, last, ?_, hruns.cons hstep, hover⟩
    intro h hh
    rcases List.mem_cons.1 hh with rfl | hh
    · rfl
    · exact hmore h hh

/-- A run comes to its end by itself, called off or not. -/
theorem exists_over {events : List Event} (hc : c.fetchers.Quiet) (root : String)
    (before : Storage) (htraced : r.pool.Traced c scope n documents events) :
    ∃ more last, (∀ h ∈ more, h ≠ .fire ∧ h ≠ .dropHandle) ∧
      Runs c scope root before r more last ∧ last.IsOver := by
  cases hw : r.writing with
  | some w =>
    obtain ⟨more, last, hmore, hruns, hover⟩ := exists_written c scope root before hw
    exact ⟨more, last, fun h hh => by simp [hmore h hh], hruns, hover⟩
  | none =>
    obtain ⟨compiled, pool, hcancel, hpool, hdone⟩ := htraced.exists_done hc
    have hcompiled : Runs c scope root before r (compiled.map .compile) { r with pool := pool } :=
      .of_pool hw hpool hcancel
    obtain ⟨more, last, hmore, hruns, hover⟩ := exists_written c scope root before
      (r := { r with pool := pool, writing := some ⟨pool.collected, [], .empty⟩ }) rfl
    refine ⟨compiled.map .compile ++ .turn :: more, last, ?_,
      hcompiled.trans (hruns.cons (.turn hw hdone)), hover⟩
    intro h hh
    rcases List.mem_append.1 hh with hh | hh
    · obtain ⟨e, -, rfl⟩ := List.mem_map.1 hh
      exact ⟨nofun, nofun⟩
    · rcases List.mem_cons.1 hh with rfl | hh
      · exact ⟨nofun, nofun⟩
      · simp [hmore h hh]

/-! ## Whole runs -/

/-- How many sources of the `i`-th document were looked at. -/
def asked (happened : List Happening) (i : Nat) : Nat := happened.count (.compile (.move i .ask))

/-- How many sources of the `i`-th document were fetched to the end. -/
def answers (happened : List Happening) (i : Nat) : Nat :=
  happened.count (.compile (.move i .answer))

/-- What is known of a run at `last` that was called off by `mid`, before `later`. Of each document
the sources that were fetched come first, and all others are cut off; none is fetched that was not
looked at by `mid`. -/
structure IsCutShort (c : DocumentCompiler) (scope : Scope) (documents : List PlacedDocument)
    (before : Storage) (happened later : List Happening) (mid last : Course) : Prop
    extends mid.Leaves last where
  sources : ∀ (i : Nat) (p : PlacedDocument) (job : Job),
    documents[i]? = some p → last.pool.jobs[i]? = some job →
    ∃ answered off, job.IsAt c scope p answered off ∧
      (∀ f ∈ answered, c.IsOutcome (c.context p) f) ∧
      asked (happened ++ later) i = answered.length + off.length + job.inFlight ∧
      answered.length + job.inFlight ≤ asked happened i
  answers_le : ∀ i, answers (happened ++ later) i ≤ asked happened i
  errors : ∀ (i : Nat) (p : PlacedDocument) (d : CompiledDocument),
    documents[i]? = some p → last.pool.jobs[i]? = some (.done d) →
    ∀ j, asked happened i ≤ j → j < p.document.sources.length →
      ⟨DocumentCompiler.errorScope p.document j, DocumentCompiler.cancelled.message⟩ ∈
        d.errors.entries
  early : mid.writing = none →
    last.storage = before ∧ ∀ report ∈ last.reports, report.status = .error

/-- What is known of a run that was not called off: no source is cut off, and all documents that
were looked at are written as if there were no calling off. -/
structure IsWhole (c : DocumentCompiler) (scope : Scope) (root : String)
    (documents : List PlacedDocument) (before : Storage) (last : Course) : Prop where
  calm : last.signal.isCancelled = false
  sources : ∀ (i : Nat) (p : PlacedDocument) (job : Job),
    documents[i]? = some p → last.pool.jobs[i]? = some job →
    ∃ answered, job.IsAt c scope p answered [] ∧ ∀ f ∈ answered, c.IsOutcome (c.context p) f
  written : ∀ w, last.writing = some w → ∃ written, last.pool.collected = written ++ w.left ∧
    CompiledDocument.writeAll root before none before written = (last.storage, w.reports, w.errors)

theorem isKept_start (n : Nat) (documents : List PlacedDocument) (traffic : Traffic)
    (root : String) (before : Storage) : (start n documents traffic before).IsKept root before :=
  ⟨fun _ => rfl, nofun⟩

theorem Runs.traced
    (hruns : Runs c scope root before (start n documents traffic initial) happened r)
    (hc : c.fetchers.Quiet) :
    r.IsHeeded ∧ ∃ events, r.pool.Traced c scope n documents events ∧
      ∀ i m, events.count (.move i m) = happened.count (.compile (.move i m)) := by
  obtain ⟨hheeded, events, hpool, hcount⟩ := hruns.pool hc rfl
  exact ⟨hheeded, events, (Pool.Traced.start c scope n documents _).runs hc hpool, hcount⟩

/-- A job and what has happened to it, whether the run was called off or not. -/
theorem exists_sources {i : Nat} {job : Job} (hc : c.fetchers.Quiet)
    (hruns : Runs c scope root before (start n documents traffic before) happened r)
    (hp : documents[i]? = some p) (hjob : r.pool.jobs[i]? = some job) :
    ∃ answered off, job.IsAt c scope p answered off ∧
      (∀ f ∈ answered, c.IsOutcome (c.context p) f) ∧
      asked happened i = answered.length + off.length + job.inFlight ∧
      answered.length ≤ answers happened i ∧ (r.signal.isCancelled = false → off = []) := by
  obtain ⟨hheeded, events, htraced, hcount⟩ := hruns.traced hc
  obtain ⟨answered, off, hfares⟩ := htraced.fares_of_getElem? hp hjob
  have hasked := hfares.asked_eq
  have hanswered := hfares.length_le
  rw [hcount] at hasked hanswered
  exact ⟨answered, off, hfares.isAt, hfares.outcomes, hasked, hanswered,
    fun hcalm => hfares.calm (hheeded.trans hcalm)⟩

/-- What may still be answered after the signal is waited for by then, and so was looked at. -/
theorem answers_add_inFlight_le (hc : c.fetchers.Quiet)
    (hmid : Runs c scope root before (start n documents traffic before) happened mid)
    (hlast : Runs c scope root before mid later last) (hfired : mid.signal.isCancelled = true)
    (i : Nat) : answers (happened ++ later) i + last.pool.inFlight i ≤ asked happened i := by
  obtain ⟨hheeded, events, htraced, hcount⟩ := hmid.traced hc
  obtain ⟨-, more, hpool, hmore⟩ := hlast.pool hc hheeded
  have hbefore := htraced.answers_le i
  have hafter := hpool.answers_le hc (hheeded.trans hfired) i
  rw [hcount, hcount] at hbefore
  rw [hmore] at hafter
  rw [answers, asked, List.count_append]
  omega

theorem isCutShort (hc : c.fetchers.Quiet)
    (hmid : Runs c scope root before (start n documents traffic before) happened mid)
    (hlast : Runs c scope root before mid later last) (hfired : mid.signal.isCancelled = true) :
    IsCutShort c scope documents before happened later mid last := by
  have hanswers := answers_add_inFlight_le hc hmid hlast hfired
  have hleaves := hlast.leaves hfired
  have hsources : ∀ (i : Nat) (p : PlacedDocument) (job : Job),
      documents[i]? = some p → last.pool.jobs[i]? = some job →
      ∃ answered off, job.IsAt c scope p answered off ∧
        (∀ f ∈ answered, c.IsOutcome (c.context p) f) ∧
        asked (happened ++ later) i = answered.length + off.length + job.inFlight ∧
        answered.length + job.inFlight ≤ asked happened i := by
    intro i p job hp hjob
    obtain ⟨answered, off, hat, houtcomes, hasked, hle, -⟩ :=
      exists_sources hc (hmid.trans hlast) hp hjob
    have hbound := hanswers i
    rw [Pool.inFlight, hjob] at hbound
    exact ⟨answered, off, hat, houtcomes, hasked, (Nat.add_le_add_right hle _).trans hbound⟩
  refine ⟨hleaves, hsources, fun i => (Nat.le_add_right _ _).trans (hanswers i), ?_, ?_⟩
  · intro i p d hp hjob j hj hlt
    obtain ⟨answered, off, hat, -, -, hle⟩ := hsources i p _ hp hjob
    cases hat with
    | done hall =>
      have hlength := congrArg List.length hall
      rw [List.length_append, List.length_map] at hlength
      exact DocumentCompiler.mem_failures_cutOff c p.document
        ((Nat.le_add_right _ _).trans (hle.trans hj)) (hlength ▸ hlt)
  · intro hnone
    obtain ⟨more, hreports, hfailed⟩ := hleaves.reports
    rw [reports_of_none hnone, List.nil_append] at hreports
    have hkept := (isKept_start n documents traffic root before).runs hmid
    exact ⟨hleaves.storage.trans (hkept.compiling hnone), hreports ▸ hfailed⟩

theorem isWhole (hc : c.fetchers.Quiet)
    (hruns : Runs c scope root before (start n documents traffic before) happened last)
    (hcalm : last.signal.isCancelled = false) :
    IsWhole c scope root documents before last := by
  refine ⟨hcalm, ?_, ?_⟩
  · intro i p job hp hjob
    obtain ⟨answered, off, hat, houtcomes, -, -, hnil⟩ := exists_sources hc hruns hp hjob
    obtain rfl := hnil hcalm
    exact ⟨answered, hat, houtcomes⟩
  · intro w hw
    obtain ⟨written, left, hwriting⟩ :=
      ((isKept_start n documents traffic root before).runs hruns).writing w hw
    obtain rfl : left = none := by
      simpa [hcalm] using hwriting.isSome
    exact ⟨written, hwriting.collected, hwriting.eq⟩

/-- In the end there is a report on each document, in order. -/
theorem outputPath_reports (hc : c.fetchers.Quiet)
    (hruns : Runs c scope root before (start n documents traffic before) happened last)
    (hover : last.IsOver) :
    last.reports.map (·.outputPath) = documents.map (·.document.outputPath) := by
  obtain ⟨w, hw, hnil⟩ := hover
  obtain ⟨-, events, htraced, -⟩ := hruns.traced hc
  obtain ⟨written, left, hwriting⟩ :=
    ((isKept_start n documents traffic root before).runs hruns).writing w hw
  have hcollected := hwriting.collected
  rw [hnil, List.append_nil] at hcollected
  obtain ⟨entries, hentries, hreports, -⟩ :=
    CompiledDocument.exists_entries root before left before written
  have hsame : entries.map (·.1.outputPath) = written.map (·.outputPath) :=
    List.forall₂_eq_eq_eq ▸ List.forall₂_map_left_iff.2
      (List.forall₂_map_right_iff.2 (hentries.flip.imp fun _ _ h => h.outputPath))
  have hw' : w.reports = entries.map Prod.fst := by
    rw [← hreports, hwriting.eq]
  rw [reports_of_some hw, hw', List.map_map, ← htraced.outputPath_collected hwriting.done,
    hcollected]
  exact hsame

/-- A run that is over without having been called off comes to what `RunWorld.generate` says. -/
theorem Runs.eq_generate {w : RunWorld} {o : RunOptions} {loaded : LoadedConfig}
    (hload : w.load o = .ok loaded) (hdocuments : loaded.registry.documents ≠ [])
    (hruns : Runs (w.compiler o) (w.documentScope o loaded.registry) o.outputRoot w.storage
      (start o.concurrency loaded.registry.documents loaded.traffic w.storage) happened last)
    (hcalm : last.signal.isCancelled = false) (hover : last.IsOver) :
    (w.generate o false).storage = last.storage ∧
      ∃ report, (w.generate o false).report = .ok report ∧ report.documents = last.reports := by
  have hsteady : (w.compiler o).fetchers.Steady := FetcherRegistry.steady_standard w.toWorld
  have hquiet : (w.compiler o).fetchers.Quiet := FetcherRegistry.quiet_standard w.toWorld
  obtain ⟨hheeded, events, hpool, -⟩ := hruns.pool hquiet rfl
  have hunderway := Pool.underway hsteady rfl hpool
    (hpool.cancel_not_mem hquiet (hheeded.trans hcalm))
  obtain ⟨writing, hw, hnil⟩ := hover
  obtain ⟨written, left, hdone, hcollected, hsome, -, hwritten⟩ :=
    ((isKept_start _ _ _ _ _).runs hruns).writing writing hw
  obtain rfl : left = none := by simpa [hcalm] using hsome
  obtain ⟨hvalue, hyields⟩ := DocumentCompiler.yields_compileAll hsteady
    (w.documentScope o loaded.registry) loaded.registry.documents
    { loaded.traffic with cancelled := false } rfl
  have hbatch : (RunWorld.compileBatch (w.compiler o) (w.documentScope o loaded.registry)
      loaded.registry.documents
      { loaded.traffic with cancelled := false }).documents = written := by
    rw [hnil, List.append_nil, (hunderway.of_isDone hdone).1] at hcollected
    exact hvalue.trans hcollected
  have hgoes : (RunWorld.compileBatch (w.compiler o) (w.documentScope o loaded.registry)
      loaded.registry.documents
      { loaded.traffic with cancelled := false }).traffic.cancelled = false := hyields
  have hempty : loaded.registry.documents.isEmpty = false := by simpa using hdocuments
  unfold RunWorld.generate RunWorld.generateBy
  rw [hload]
  simp only [hempty, hbatch, hgoes, hwritten, Bool.false_eq_true, if_false]
  exact ⟨trivial, _, rfl, (reports_of_some hw).symm⟩

/-- Calling a run off is final, at whatever moment it happens. Sources that are looked at later are
not fetched and fail, so that those cut off are the last ones of their document; documents that are
looked at later are not written and fail; what was written stays. Before writing has begun nothing
is written at all. A handle that is given up calls nothing off. In all cases the run comes to its
end by itself, with a report on each document. -/
theorem cancellation_final {c : DocumentCompiler} {scope : Scope} {root : String} {n : Nat}
    {documents : List PlacedDocument} {traffic : Traffic} {before : Storage}
    {happened later : List Happening} {mid last : Course} (hc : c.fetchers.Quiet)
    (hmid : Runs c scope root before (start n documents traffic before) happened mid)
    (hlast : Runs c scope root before mid later last) :
    (mid.signal.isCancelled = true →
      IsCutShort c scope documents before happened later mid last) ∧
    (mid.signal = .never → IsWhole c scope root documents before last) ∧
    ∃ more finished, (∀ h ∈ more, h ≠ .fire ∧ h ≠ .dropHandle) ∧
      Runs c scope root before last more finished ∧ finished.IsOver ∧
      finished.reports.map (·.outputPath) = documents.map (·.document.outputPath) := by
  have hruns := hmid.trans hlast
  obtain ⟨-, events, htraced, -⟩ := hruns.traced hc
  obtain ⟨more, finished, hmore, hfinished, hover⟩ := exists_over hc root before htraced
  refine ⟨isCutShort hc hmid hlast, fun hnever => ?_, more, finished, hmore, hfinished, hover,
    outputPath_reports hc (hruns.trans hfinished) hover⟩
  exact isWhole hc hruns (by rw [hlast.calm hnever]; rfl)

/-- A document with two texts. -/
def couple : PlacedDocument :=
  ⟨⟨"/context.yaml", 0⟩, "/", ⟨"", "a.md", true, [],
    [⟨"", none, [], .text "first"⟩, ⟨"", none, [], .text "second"⟩], []⟩⟩

/-- Its run in a world without files. -/
def coupleStart : Course := start 1 [couple] .none Pool.still.storage

/-- The run may be called off while the first text is waited for, and its handle may be given up
before that. -/
theorem couple_runs :
    (∃ mid, Runs (Pool.still.compiler Pool.stillOptions) .empty "/out" Pool.still.storage
        coupleStart [.compile .spawn, .compile (.move 0 .start), .compile (.move 0 .ask), .fire]
        mid ∧ mid.signal.isCancelled = true ∧ mid.writing = none) ∧
    ∃ mid, Runs (Pool.still.compiler Pool.stillOptions) .empty "/out" Pool.still.storage
        coupleStart [.compile .spawn, .dropHandle] mid ∧ mid.signal = .never := by
  constructor
  · refine ⟨_, (((Runs.refl.step (.compile rfl (by decide) (.spawn rfl))).step
      (.compile rfl (by decide) (.move rfl .start))).step
      (.compile rfl (by decide) (.move rfl (.ask rfl)))).step .fire, ?_, ?_⟩
    · rfl
    · rfl
  · refine ⟨_, (Runs.refl.step (.compile rfl (by decide) (.spawn rfl))).step .dropHandle, ?_⟩
    rfl

theorem couple_final :
    (∃ mid later last,
      Runs (Pool.still.compiler Pool.stillOptions) .empty "/out" Pool.still.storage coupleStart
        [.compile .spawn, .compile (.move 0 .start), .compile (.move 0 .ask), .fire] mid ∧
      Runs (Pool.still.compiler Pool.stillOptions) .empty "/out" Pool.still.storage mid later
        last ∧
      last.IsOver ∧ last.storage = Pool.still.storage ∧
      last.reports.map (fun r => (r.outputPath, r.status)) = [("a.md", .error)] ∧
      ∀ d, last.pool.jobs[0]? = some (.done d) →
        ⟨"a.md#source[1]", "fetch error: run cancelled"⟩ ∈ d.errors.entries) ∧
    ∃ mid later last,
      Runs (Pool.still.compiler Pool.stillOptions) .empty "/out" Pool.still.storage coupleStart
        [.compile .spawn, .dropHandle] mid ∧
      Runs (Pool.still.compiler Pool.stillOptions) .empty "/out" Pool.still.storage mid later
        last ∧
      last.IsOver ∧ last.signal.isCancelled = false := by
  have hquiet : (Pool.still.compiler Pool.stillOptions).fetchers.Quiet :=
    FetcherRegistry.quiet_standard Pool.still.toWorld
  obtain ⟨⟨mid, hmid, hfired, hnone⟩, dropped, hdropped, hnever⟩ := couple_runs
  constructor
  · obtain ⟨-, -, later, last, -, hlater, hover, hpaths⟩ := cancellation_final hquiet hmid .refl
    obtain ⟨hcut, -, -⟩ := cancellation_final hquiet hmid hlater
    obtain ⟨hstorage, hfailed⟩ := (hcut hfired).early hnone
    obtain ⟨report, hreport, hpath⟩ := List.map_eq_singleton_iff.1 hpaths
    rw [hreport] at hfailed
    have hstatus := hfailed report List.mem_cons_self
    refine ⟨mid, later, last, hmid, hlater, hover, hstorage, ?_, fun d hd => ?_⟩
    · rw [hreport, List.map_singleton, hpath, hstatus]
      rfl
    · exact (hcut hfired).errors 0 couple d rfl hd 1 (by decide) (by decide)
  · obtain ⟨-, -, later, last, -, hlater, hover, -⟩ := cancellation_final hquiet hdropped .refl
    obtain ⟨-, hwhole, -⟩ := cancellation_final hquiet hdropped hlater
    exact ⟨dropped, later, last, hdropped, hlater, hover, (hwhole hnever).calm⟩

end Course

end ContextCompiler
