import Mathlib
import ContextCompiler.Proofs.Compile.Sections
import ContextCompiler.Proofs.Generate.Pool

/-!
Pools that may be called off.

Every source of a document is looked at once, in order. Up to the moment at which the run is called
off sources come to something on their own, and from then on they are cut off (`Job.IsAt`). One
source of a job may be waited for at that moment, and either may befall it. `Traced` ties this to
what has happened to the pool: a job asks once for each source, and no source is answered that was
not asked for before the run was called off (`answers_le_of_cancelled`). Called off or not, a pool
comes to an end (`Traced.exists_done`).
-/

namespace ContextCompiler

variable {c : DocumentCompiler} {scope : Scope} {p : PlacedDocument}
  {documents : List PlacedDocument} {traffic : Traffic} {n : Nat}

/-! ## Sources on their own -/

namespace DocumentCompiler

variable {ctx : FetchContext} {s : Source}

/-- What a source comes to when it is not cut off: what its fetcher says, or that it says nothing
in time. -/
def outcome (c : DocumentCompiler) (s : Source) : Except Halt String → Except Failure String
  | .ok content => .ok content
  | .error (.failure e) => .error e
  | .error .silence => .error (timedOut s.kind.type c.timeout)

/-- A source has come to something on its own. -/
def IsOutcome (c : DocumentCompiler) (ctx : FetchContext) (f : Fetched) : Prop :=
  ∃ t, f.2 = c.outcome f.1 ((c.fetchers.fetch ctx f.1).run.run t).1

/-- Sources with what they came to, and after them sources that were cut off. -/
def cutOff (answered : List Fetched) (off : List Source) : List Fetched :=
  answered ++ off.map fun s => (s, .error cancelled)

theorem run_answer (c : DocumentCompiler) (ctx : FetchContext) (s : Source) (t : Traffic) :
    (c.answer ctx s).run t =
      let fetched := (c.fetchers.fetch ctx s).run.run t
      (match fetched.1 with
        | .ok content => .ok content
        | .error (.failure e) => .error e
        | .error .silence =>
          .error (if fetched.2.cancelled then cancelled else timedOut s.kind.type c.timeout),
        fetched.2) := by
  unfold answer
  rw [StateT.run_bind]
  generalize (c.fetchers.fetch ctx s).run.run t = fetched
  obtain ⟨(e | -) | content, t'⟩ := fetched <;> rfl

theorem cancelled_answer (hc : c.fetchers.Quiet) (ctx : FetchContext) (s : Source) (t : Traffic) :
    ((c.answer ctx s).run t).2.cancelled = t.cancelled := by
  rw [run_answer]
  exact hc ctx s t

/-- A source that is waited for comes to something on its own, or is cut off. -/
theorem answer_cases (hc : c.fetchers.Quiet) (ctx : FetchContext) (s : Source) (t : Traffic) :
    c.IsOutcome ctx (s, ((c.answer ctx s).run t).1) ∨
      t.cancelled = true ∧ ((c.answer ctx s).run t).1 = .error cancelled := by
  have hquiet := hc ctx s t
  unfold IsOutcome
  rw [run_answer]
  cases ht : t.cancelled with
  | false =>
    left
    refine ⟨t, ?_⟩
    rw [ht] at hquiet
    dsimp only
    rw [hquiet]
    unfold outcome
    rcases ((c.fetchers.fetch ctx s).run.run t).1 with (e | -) | content <;> rfl
  | true =>
    rw [ht] at hquiet
    dsimp only
    rw [hquiet]
    cases hfetched : ((c.fetchers.fetch ctx s).run.run t).1 with
    | ok content => exact .inl ⟨t, by rw [hfetched]; rfl⟩
    | error halt =>
      cases halt with
      | failure e => exact .inl ⟨t, by rw [hfetched]; rfl⟩
      | silence => exact .inr ⟨rfl, rfl⟩

theorem failures_concat (c : DocumentCompiler) (d : Document) (fetched : List Fetched)
    (f : Fetched) :
    c.failures d 0 (fetched ++ [f]) =
      c.failures d 0 fetched ++ (c.failure? d (f, fetched.length)).toList := by
  rw [failures, List.zipIdx_append, List.filterMap_append, Nat.zero_add, List.zipIdx_singleton,
    List.filterMap_cons]
  cases c.failure? d (f, fetched.length) <;> rfl

/-- A source that was cut off has its error in the log. -/
theorem mem_failures_cutOff (c : DocumentCompiler) (d : Document) {answered : List Fetched}
    {off : List Source} {j : Nat} (hanswered : answered.length ≤ j)
    (hj : j < answered.length + off.length) :
    ⟨errorScope d j, cancelled.message⟩ ∈ c.failures d 0 (cutOff answered off) := by
  have hoff : j - answered.length < off.length := by omega
  have hget : (cutOff answered off)[j]? =
      some (off[j - answered.length], .error cancelled) := by
    rw [cutOff, List.getElem?_append_right hanswered, List.getElem?_map,
      List.getElem?_eq_getElem hoff]
    rfl
  exact List.mem_filterMap.2
    ⟨((off[j - answered.length], .error cancelled), j), List.mem_zipIdx_iff_getElem?.2 hget, rfl⟩

end DocumentCompiler

open DocumentCompiler (Fetched cutOff)

/-! ## Jobs -/

namespace Job

variable {job job' : Job} {shared shared' : Shared} {m : Move} {answered : List Fetched}
  {off left : List Source} {s : Source} {r : Except Failure String}

/-- The number of sources that a job waits for. -/
def inFlight : Job → Nat
  | running _ _ _ _ true => 1
  | _ => 0

/-- A job is that of a document, of which the first sources were answered and those after them cut
off. A job that waits for a source has none that was cut off. -/
inductive IsAt (c : DocumentCompiler) (scope : Scope) (p : PlacedDocument) :
    List Fetched → List Source → Job → Prop
  | waiting : IsAt c scope p [] [] (.waiting p)
  | running {answered : List Fetched} {off left : List Source} {fetching : Bool} :
      answered.map Prod.fst ++ off ++ left = p.document.sources →
      (fetching = true → left ≠ [] ∧ off = []) →
      IsAt c scope p answered off
        (.running p (c.sectionTexts p.document (cutOff answered off))
          ⟨c.failures p.document 0 (cutOff answered off)⟩ left fetching)
  | done {answered : List Fetched} {off : List Source} :
      answered.map Prod.fst ++ off = p.document.sources →
      IsAt c scope p answered off (.done (c.compiledBy scope p.document (cutOff answered off)))

/-- How a job fares that has asked `asked` times, and was answered `answers` times. Only what was
called off has sources that are cut off. -/
structure Fares (c : DocumentCompiler) (scope : Scope) (p : PlacedDocument) (cancelled : Bool)
    (asked answers : Nat) (answered : List Fetched) (off : List Source) (job : Job) : Prop where
  isAt : job.IsAt c scope p answered off
  outcomes : ∀ f ∈ answered, c.IsOutcome (c.context p) f
  calm : cancelled = false → off = []
  asked_eq : asked = answered.length + off.length + job.inFlight
  length_le : answered.length ≤ answers
  inFlight_le : answers + job.inFlight ≤ asked

/-- A job after a source is at the sections and errors of one source more. -/
theorem fetched_eq_running (c : DocumentCompiler) (p : PlacedDocument) (fetched : List Fetched)
    (s : Source) (left : List Source) (r : Except Failure String) :
    Job.fetched c p (c.sectionTexts p.document fetched) ⟨c.failures p.document 0 fetched⟩ s left r =
      .running p (c.sectionTexts p.document (fetched ++ [(s, r)]))
        ⟨c.failures p.document 0 (fetched ++ [(s, r)])⟩ left false := by
  have hlength : (c.sectionTexts p.document fetched).length = fetched.length := List.length_map _
  have hsection := DocumentCompiler.sectionOf_eq c p.document fetched.length (s, r)
  rw [fetched_eq, hlength]
  dsimp only at hsection ⊢
  rw [hsection, DocumentCompiler.failures_concat, DocumentCompiler.sectionTexts,
    DocumentCompiler.sectionTexts, List.map_append]
  rfl

theorem isAt_of_answered
    (hsources : answered.map Prod.fst ++ s :: left = p.document.sources) :
    IsAt c scope p (answered ++ [(s, r)]) []
      (fetched c p (c.sectionTexts p.document (cutOff answered []))
        ⟨c.failures p.document 0 (cutOff answered [])⟩ s left r) := by
  have hcut : cutOff (answered ++ [(s, r)]) [] = cutOff answered [] ++ [(s, r)] := by
    simp [cutOff]
  rw [fetched_eq_running, ← hcut]
  exact .running (by simpa using hsources) nofun

theorem isAt_of_cutOff
    (hsources : answered.map Prod.fst ++ off ++ s :: left = p.document.sources) :
    IsAt c scope p answered (off ++ [s])
      (fetched c p (c.sectionTexts p.document (cutOff answered off))
        ⟨c.failures p.document 0 (cutOff answered off)⟩ s left
        (.error DocumentCompiler.cancelled)) := by
  have hcut : cutOff answered (off ++ [s]) =
      cutOff answered off ++ [(s, .error DocumentCompiler.cancelled)] := by
    simp [cutOff]
  rw [fetched_eq_running, ← hcut]
  exact .running (by simpa using hsources) nofun

namespace Step

theorem work_lt (h : Step c scope job shared m job' shared') : job'.work < job.work := by
  cases h with
  | start => simp [work]
  | ask => simp [work]
  | finish => simp [work]
  | answer => simp [fetched_eq, work]; omega
  | refuse => simp [fetched_eq, work]
  | abandon => simp [fetched_eq, work]; omega

theorem cancelled_eq (h : Step c scope job shared m job' shared') (hc : c.fetchers.Quiet) :
    shared'.traffic.cancelled = shared.traffic.cancelled := by
  cases h with
  | answer => exact DocumentCompiler.cancelled_answer hc _ _ _
  | start => rfl
  | ask => rfl
  | refuse => rfl
  | abandon => rfl
  | finish => rfl

/-- Once a run is called off no job waits for another source. -/
theorem inFlight_le (h : Step c scope job shared m job' shared')
    (hcancelled : shared.traffic.cancelled = true) :
    (if m = .answer then 1 else 0) + job'.inFlight ≤ job.inFlight := by
  cases h with
  | ask hcalm => exact absurd (hcalm.symm.trans hcancelled) Bool.false_ne_true
  | start => exact Nat.le_refl _
  | finish => exact Nat.le_refl _
  | answer => exact Nat.le_refl _
  | refuse => exact Nat.le_refl _
  | abandon => exact Nat.zero_le _

end Step

theorem Fares.waiting (c : DocumentCompiler) (scope : Scope) (p : PlacedDocument)
    (cancelled : Bool) : Fares c scope p cancelled 0 0 [] [] (.waiting p) where
  isAt := .waiting
  outcomes _ hf := absurd hf List.not_mem_nil
  calm _ := rfl
  asked_eq := rfl
  length_le := Nat.le_refl _
  inFlight_le := Nat.le_refl _

theorem Fares.cancel {cancelled : Bool} {asked answers : Nat}
    (h : Fares c scope p cancelled asked answers answered off job) :
    Fares c scope p true asked answers answered off job :=
  ⟨h.isAt, h.outcomes, nofun, h.asked_eq, h.length_le, h.inFlight_le⟩

/-- A job that goes on fares on. -/
theorem Fares.step {asked answers : Nat} (hc : c.fetchers.Quiet)
    (h : Fares c scope p shared.traffic.cancelled asked answers answered off job)
    (hstep : Step c scope job shared m job' shared') :
    ∃ answered' off', Fares c scope p shared'.traffic.cancelled
      (asked + if m = .ask then 1 else 0) (answers + if m = .answer then 1 else 0)
      answered' off' job' := by
  obtain ⟨hat, houtcomes, hcalm, hasked, hanswers, hflight⟩ := h
  cases hstep with
  | start =>
    cases hat
    exact ⟨[], [], .running rfl nofun, houtcomes, hcalm, hasked, hanswers, hflight⟩
  | ask hgoes =>
    cases hat with
    | running hsources =>
      exact ⟨answered, off, .running hsources fun _ => ⟨List.cons_ne_nil _ _, hcalm hgoes⟩,
        houtcomes, hcalm, congrArg Nat.succ hasked, hanswers, Nat.succ_le_succ hflight⟩
  | refuse hcancelled =>
    cases hat with
    | running hsources =>
      refine ⟨answered, off ++ [_], isAt_of_cutOff hsources, houtcomes,
        fun hgoes => absurd (hgoes.symm.trans hcancelled) Bool.false_ne_true, ?_, hanswers,
        hflight.trans (Nat.le_succ _)⟩
      rw [List.length_append, hasked]
      rfl
  | @answer _ texts errors s left permits traffic =>
    cases hat with
    | running hsources hfetching =>
      obtain ⟨-, rfl⟩ := hfetching rfl
      have hquiet := DocumentCompiler.cancelled_answer hc (c.context p) s traffic
      rcases DocumentCompiler.answer_cases hc (c.context p) s traffic with hr | ⟨hcancelled, hr⟩
      · refine ⟨answered ++ [(s, _)], [], isAt_of_answered (by simpa using hsources), ?_,
          fun _ => rfl, ?_, ?_, hflight⟩
        · intro f hf
          rcases List.mem_append.1 hf with hf | hf
          · exact houtcomes f hf
          · cases List.mem_singleton.1 hf
            exact hr
        · rw [List.length_append, hasked]
          rfl
        · rw [List.length_append]
          exact Nat.succ_le_succ hanswers
      · rw [hr]
        exact ⟨answered, [s], isAt_of_cutOff hsources, houtcomes,
          fun hgoes => absurd (hgoes.symm.trans (hquiet.trans hcancelled)) Bool.false_ne_true,
          hasked, hanswers.trans (Nat.le_succ _), hflight⟩
  | abandon hcancelled =>
    cases hat with
    | running hsources hfetching =>
      obtain ⟨-, rfl⟩ := hfetching rfl
      exact ⟨answered, [_], isAt_of_cutOff hsources, houtcomes,
        fun hgoes => absurd (hgoes.symm.trans hcancelled) Bool.false_ne_true, hasked, hanswers,
        (Nat.le_succ _).trans hflight⟩
  | finish =>
    cases hat with
    | running hsources =>
      exact ⟨answered, off, .done (by simpa using hsources), houtcomes, hcalm, hasked, hanswers,
        hflight⟩

end Job

/-! ## Pools -/

namespace Pool

variable {pool pool' first mid : Pool} {events : List Event} {i : Nat} {job job' : Job}
  {m : Move} {shared : Shared}

/-- How often something still happens to a pool that is left alone. -/
def remaining (pool : Pool) : Nat :=
  pool.work + (pool.unspawned.length + pool.jobs.length - pool.collected.length)

/-- The number of sources that the `i`-th job waits for. -/
def inFlight (pool : Pool) (i : Nat) : Nat := pool.jobs[i]?.elim 0 Job.inFlight

/-- What holds of a pool that has worked on documents, called off or not, and of what has happened
to it. -/
structure Traced (c : DocumentCompiler) (scope : Scope) (n : Nat)
    (documents : List PlacedDocument) (events : List Event) (pool : Pool) : Prop
    extends Orderly n documents pool where
  fares : ∀ (i : Nat) (job : Job), pool.jobs[i]? = some job →
    ∃ p answered off, documents[i]? = some p ∧
      job.Fares c scope p pool.shared.traffic.cancelled (events.count (.move i .ask))
        (events.count (.move i .answer)) answered off
  idle : ∀ i m, pool.jobs.length ≤ i → events.count (.move i m) = 0

theorem Step.remaining_lt {e : Event} (h : Step c scope pool e pool') (he : e ≠ .cancel)
    (hle : pool.collected.length ≤ pool.jobs.length) : pool'.remaining < pool.remaining := by
  cases h with
  | spawn hnext =>
    simp only [remaining, work, hnext, List.map_cons, List.sum_cons, List.map_append,
      List.sum_append, List.map_nil, List.sum_nil, Job.work, List.length_append,
      List.length_cons, List.length_nil]
    omega
  | @move i job job' m shared hjob hmove =>
    have hsum := sum_work_set hjob job'
    have hless := hmove.work_lt
    simp only [remaining, work, List.length_set]
    omega
  | collect hall hjob =>
    have hlt := (List.getElem?_eq_some_iff.1 hjob).1
    simp only [remaining, work, List.length_append, List.length_singleton]
    omega
  | cancel => exact absurd rfl he

/-- Nothing but calling it off calls a pool off, and that is final. -/
theorem Step.cancelled_eq {e : Event} (h : Step c scope pool e pool') (hc : c.fetchers.Quiet) :
    pool'.shared.traffic.cancelled = (pool.shared.traffic.cancelled || e = .cancel) := by
  cases h with
  | spawn => simp
  | move _ hmove => simpa using hmove.cancelled_eq hc
  | collect => simp
  | cancel => simp

theorem Runs.cons {e : Event} {events : List Event} (hstep : Step c scope first e pool)
    (h : Runs c scope pool events pool') : Runs c scope first (e :: events) pool' := by
  induction h with
  | refl => exact Runs.refl.step hstep
  | step _ hlast ih => exact ih.step hlast

namespace Traced

theorem start (c : DocumentCompiler) (scope : Scope) (n : Nat) (documents : List PlacedDocument)
    (traffic : Traffic) : Traced c scope n documents [] (start n documents traffic) where
  toOrderly := .start n documents traffic
  fares := nofun
  idle _ _ _ := rfl

theorem spawn {rest : List PlacedDocument} (h : Traced c scope n documents events pool)
    (hnext : pool.unspawned = p :: rest) :
    Traced c scope n documents (events ++ [.spawn])
      { pool with unspawned := rest, jobs := pool.jobs ++ [.waiting p] } := by
  have hcount : ∀ i m, (events ++ [Event.spawn]).count (.move i m) = events.count (.move i m) :=
    fun i m => count_concat_of_ne (by simp)
  constructor
  case toOrderly => exact h.toOrderly.step (.spawn hnext : Step c scope pool .spawn _)
  case fares =>
    intro i job hjob
    rw [hcount, hcount]
    rw [List.getElem?_append] at hjob
    split at hjob
    · exact h.fares i job hjob
    · obtain ⟨hi', rfl⟩ : i - pool.jobs.length = 0 ∧ Job.waiting p = job := by
        simpa [List.getElem?_singleton] using hjob
      obtain rfl : i = pool.jobs.length := by omega
      rw [h.idle _ _ (Nat.le_refl _), h.idle _ _ (Nat.le_refl _)]
      exact ⟨p, [], [], (h.next hnext).1, .waiting c scope p _⟩
  case idle =>
    intro i m hi
    rw [hcount]
    rw [List.length_append] at hi
    exact h.idle i m ((Nat.le_add_right _ _).trans hi)

theorem move (h : Traced c scope n documents events pool) (hc : c.fetchers.Quiet)
    (hjob : pool.jobs[i]? = some job) (hstep : job.Step c scope pool.shared m job' shared) :
    Traced c scope n documents (events ++ [.move i m])
      { pool with jobs := pool.jobs.set i job', shared := shared } := by
  constructor
  case toOrderly => exact h.toOrderly.step (.move hjob hstep)
  case fares =>
    intro k job₂ hk
    rw [List.getElem?_set] at hk
    split at hk
    · next hsame =>
      subst hsame
      rw [if_pos (List.getElem?_eq_some_iff.1 hjob).1] at hk
      cases hk
      obtain ⟨p, answered, off, hp, hfares⟩ := h.fares i job hjob
      obtain ⟨answered', off', hfares'⟩ := hfares.step hc hstep
      refine ⟨p, answered', off', hp, ?_⟩
      simpa [List.count_append, List.count_singleton] using hfares'
    · next hother =>
      rw [count_concat_of_ne (by simp [hother]), count_concat_of_ne (by simp [hother])]
      dsimp only
      rw [hstep.cancelled_eq hc]
      exact h.fares k job₂ hk
  case idle =>
    intro k m' hk
    rw [List.length_set] at hk
    have hi := (List.getElem?_eq_some_iff.1 hjob).1
    have hne : i ≠ k := by omega
    rw [count_concat_of_ne (by simp [hne])]
    exact h.idle k m' hk

theorem collect {d : CompiledDocument} (h : Traced c scope n documents events pool)
    (hall : pool.unspawned = []) (hjob : pool.jobs[pool.collected.length]? = some (.done d)) :
    Traced c scope n documents (events ++ [.collect])
      { pool with
        collected := pool.collected ++ [d]
        told := pool.told ++
          [.compiled d.outputPath (pool.collected.length + 1) pool.jobs.length] } := by
  constructor
  case toOrderly => exact h.toOrderly.step (.collect hall hjob : Step c scope pool .collect _)
  case fares =>
    intro i job hi
    rw [count_concat_of_ne (by simp), count_concat_of_ne (by simp)]
    exact h.fares i job hi
  case idle =>
    intro i m hi
    rw [count_concat_of_ne (by simp)]
    exact h.idle i m hi

theorem cancel (h : Traced c scope n documents events pool) :
    Traced c scope n documents (events ++ [.cancel])
      { pool with shared.traffic.cancelled := true } := by
  constructor
  case toOrderly => exact h.toOrderly.step (.cancel : Step c scope pool .cancel _)
  case fares =>
    intro i job hi
    rw [count_concat_of_ne (by simp), count_concat_of_ne (by simp)]
    obtain ⟨p, answered, off, hp, hfares⟩ := h.fares i job hi
    exact ⟨p, answered, off, hp, hfares.cancel⟩
  case idle =>
    intro i m hi
    rw [count_concat_of_ne (by simp)]
    exact h.idle i m hi

theorem step {e : Event} (h : Traced c scope n documents events pool) (hc : c.fetchers.Quiet)
    (hstep : Step c scope pool e pool') : Traced c scope n documents (events ++ [e]) pool' := by
  cases hstep with
  | spawn hnext => exact h.spawn hnext
  | move hjob hmove => exact h.move hc hjob hmove
  | collect hall hjob => exact h.collect hall hjob
  | cancel => exact h.cancel

theorem runs {more : List Event} (h : Traced c scope n documents events pool)
    (hc : c.fetchers.Quiet) (hruns : Runs c scope pool more pool') :
    Traced c scope n documents (events ++ more) pool' := by
  induction hruns with
  | refl => rwa [List.append_nil]
  | step _ hstep ih =>
    rw [← List.append_assoc]
    exact ih.step hc hstep

theorem fares_of_getElem? (h : Traced c scope n documents events pool)
    (hp : documents[i]? = some p) (hjob : pool.jobs[i]? = some job) :
    ∃ answered off, job.Fares c scope p pool.shared.traffic.cancelled
      (events.count (.move i .ask)) (events.count (.move i .answer)) answered off := by
  obtain ⟨p', answered, off, hp', hfares⟩ := h.fares i job hjob
  cases hp.symm.trans hp'
  exact ⟨answered, off, hfares⟩

/-- No job is answered or waits for more sources than it has asked for. -/
theorem answers_le (h : Traced c scope n documents events pool) (i : Nat) :
    events.count (.move i .answer) + pool.inFlight i ≤ events.count (.move i .ask) := by
  unfold inFlight
  cases hjob : pool.jobs[i]? with
  | some job =>
    obtain ⟨p, answered, off, -, hfares⟩ := h.fares i job hjob
    exact hfares.inFlight_le
  | none =>
    rw [h.idle i .answer (List.getElem?_eq_none_iff.1 hjob)]
    exact Nat.zero_le _

/-- What is collected in the end are all documents in order. -/
theorem outputPath_collected (h : Traced c scope n documents events pool) (hdone : pool.IsDone) :
    pool.collected.map (·.outputPath) = documents.map (·.document.outputPath) := by
  have hlength : pool.collected.length = documents.length :=
    hdone.2.trans (h.length_eq hdone.1)
  refine List.ext_getElem (by simpa using hlength) fun i hi hi' => ?_
  rw [List.length_map] at hi hi'
  rw [List.getElem_map, List.getElem_map]
  obtain ⟨answered, off, hfares⟩ := h.fares_of_getElem? (List.getElem?_eq_getElem hi')
    (h.done i _ (List.getElem?_eq_getElem hi))
  generalize hd : pool.collected[i] = d at hfares
  cases hfares.isAt
  rfl

theorem exists_step (h : Traced c scope n documents events pool) (hdone : ¬ pool.IsDone) :
    ∃ e pool', e ≠ .cancel ∧ Step c scope pool e pool' := by
  refine h.toOrderly.exists_step hdone fun job hmem hrunning => ?_
  obtain ⟨i, hi⟩ := List.getElem?_of_mem hmem
  obtain ⟨p, answered, off, -, hfares⟩ := h.fares i job hi
  cases hfares.isAt with
  | waiting => cases hrunning
  | done => cases hrunning
  | running _ hfetching => exact Job.exists_step c scope p _ _ _ fun hf => (hfetching hf).1

/-- A pool comes to its end, called off or not. -/
theorem exists_done (h : Traced c scope n documents events pool) (hc : c.fetchers.Quiet) :
    ∃ more pool', .cancel ∉ more ∧ Runs c scope pool more pool' ∧ pool'.IsDone := by
  induction hleft : pool.remaining using Nat.strong_induction_on generalizing events pool with
  | _ left ih =>
    by_cases hdone : pool.IsDone
    · exact ⟨[], pool, List.not_mem_nil, .refl, hdone⟩
    · obtain ⟨e, next, he, hstep⟩ := h.exists_step hdone
      have hless := hstep.remaining_lt he h.collected_le
      obtain ⟨more, last, hmore, hruns, hend⟩ := ih _ (hleft ▸ hless) (h.step hc hstep) rfl
      refine ⟨e :: more, last, ?_, hruns.cons hstep, hend⟩
      exact fun hmem => (List.mem_cons.1 hmem).elim (fun hsame => he hsame.symm) hmore

end Traced

/-- Once a pool is called off, no job waits for another source. -/
theorem Step.inFlight_le {e : Event} (h : Step c scope pool e pool')
    (hcancelled : pool.shared.traffic.cancelled = true) (i : Nat) :
    (if e = .move i .answer then 1 else 0) + pool'.inFlight i ≤ pool.inFlight i := by
  cases h with
  | spawn => simp [inFlight, elim_concat (f := Job.inFlight) rfl]
  | collect => simp [inFlight]
  | cancel => simp [inFlight]
  | @move k job job' m shared hjob hmove =>
    have hflight := hmove.inFlight_le hcancelled
    unfold inFlight
    rw [elim_set Job.inFlight hjob]
    by_cases hk : i = k
    · subst hk
      simpa [hjob] using hflight
    · simp [hk, Ne.symm hk]

theorem Runs.cancelled (h : Runs c scope first events pool) (hc : c.fetchers.Quiet)
    (hfirst : first.shared.traffic.cancelled = true) : pool.shared.traffic.cancelled = true := by
  induction h with
  | refl => exact hfirst
  | step _ hstep ih => rw [hstep.cancelled_eq hc, ih, Bool.true_or]

/-- What happened to a pool that is not called off did not call it off. -/
theorem Runs.cancel_not_mem (h : Runs c scope first events pool) (hc : c.fetchers.Quiet)
    (hcalm : pool.shared.traffic.cancelled = false) : .cancel ∉ events := by
  induction h with
  | refl => exact List.not_mem_nil
  | @step events e pool pool' _ hstep ih =>
    rw [hstep.cancelled_eq hc, Bool.or_eq_false_iff, decide_eq_false_iff_not] at hcalm
    rw [List.mem_append, List.mem_singleton, not_or]
    exact ⟨ih hcalm.1, fun he => hcalm.2 he.symm⟩

/-- Once a pool is called off, the sources that its jobs wait for are the only ones that may still
be answered. -/
theorem Runs.answers_le (h : Runs c scope first events pool) (hc : c.fetchers.Quiet)
    (hfirst : first.shared.traffic.cancelled = true) (i : Nat) :
    events.count (.move i .answer) + pool.inFlight i ≤ first.inFlight i := by
  induction h with
  | refl => simp
  | step hruns hstep ih =>
    have hless := hstep.inFlight_le (hruns.cancelled hc hfirst) i
    simp only [List.count_append, List.count_singleton, beq_iff_eq]
    omega

end Pool

end ContextCompiler
