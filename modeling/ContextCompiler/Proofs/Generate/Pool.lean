import Mathlib
import ContextCompiler.Generate.Pool
import ContextCompiler.Proofs.Compile.Settled

/-!
What a pool compiles.

As long as the run is not called off and fetching is steady, it makes no difference in which order
the jobs of a pool go on: `Underway` holds of every pool that can be reached. So no more documents
are worked on at once than there are permits, a pool never gets stuck, and in the end it has what
compiling the documents one after the other comes to.
-/

namespace ContextCompiler

variable {c : DocumentCompiler} {scope : Scope} {p : PlacedDocument}
  {documents : List PlacedDocument} {traffic : Traffic} {n : Nat}

/-! ## Steps of a job -/

namespace Job

variable {job job' : Job} {shared shared' : Shared} {m : Move}

/-- A job is that of a document, and what it has so far leads to what the document is compiled
to. -/
inductive IsFor (c : DocumentCompiler) (scope : Scope) (p : PlacedDocument) : Job → Prop
  | waiting : IsFor c scope p (.waiting p)
  | running {texts : List String} {errors : ErrorLog} {left : List Source} {fetching : Bool} :
      (let rest := c.settledSections p.document (c.context p) texts.length left
       (texts ++ rest.1, errors.append rest.2)) =
        c.settledSections p.document (c.context p) 0 p.document.sources →
      (fetching = true → left ≠ []) → IsFor c scope p (.running p texts errors left fetching)
  | done : IsFor c scope p (.done (c.settledDocument scope p))

/-- How often a job has taken a permit. -/
def started : Job → Nat
  | waiting _ => 0
  | _ => 1

/-- How often a job has come to its end. -/
def ended : Job → Nat
  | done _ => 1
  | _ => 0

/-- How often a job still goes on. -/
def work : Job → Nat
  | waiting p => 2 * p.document.sources.length + 2
  | running _ _ _ left fetching => 2 * left.length + if fetching then 0 else 1
  | done _ => 0

theorem fetched_eq (c : DocumentCompiler) (p : PlacedDocument) (texts : List String)
    (errors : ErrorLog) (s : Source) (left : List Source) (result : Except Failure String) :
    fetched c p texts errors s left result =
      let last := c.sectionOf p.document texts.length s result
      .running p (texts ++ [last.1]) (errors.append last.2) left false :=
  rfl

namespace Step

theorem started_eq (h : Step c scope job shared m job' shared') :
    job'.started = job.started + if m = .start then 1 else 0 := by
  cases h <;> rfl

theorem ended_eq (h : Step c scope job shared m job' shared') :
    job'.ended = job.ended + if m = .finish then 1 else 0 := by
  cases h <;> rfl

/-- A permit is either free or with a job. -/
theorem permits_eq (h : Step c scope job shared m job' shared') :
    shared'.permits + (if job'.isRunning then 1 else 0) =
      shared.permits + (if job.isRunning then 1 else 0) := by
  cases h <;> rfl

theorem work_eq (h : Step c scope job shared m job' shared')
    (hcalm : shared.traffic.cancelled = false) : job'.work + 1 = job.work := by
  cases h with
  | start => rfl
  | ask => rfl
  | answer => simp [fetched, work, Nat.mul_add]
  | finish => rfl
  | refuse hcancelled => exact absurd (hcalm.symm.trans hcancelled) Bool.false_ne_true
  | abandon hcancelled => exact absurd (hcalm.symm.trans hcancelled) Bool.false_ne_true

theorem calm (h : Step c scope job shared m job' shared') (hc : c.fetchers.Steady)
    (hcalm : shared.traffic.cancelled = false) : shared'.traffic.cancelled = false := by
  cases h with
  | answer => exact (DocumentCompiler.yields_answer hc _ _ _ hcalm).2
  | start => exact hcalm
  | ask => exact hcalm
  | finish => exact hcalm
  | refuse => exact hcalm
  | abandon => exact hcalm

theorem isFor (h : Step c scope job shared m job' shared') (hc : c.fetchers.Steady)
    (hcalm : shared.traffic.cancelled = false) (hjob : IsFor c scope p job) :
    IsFor c scope p job' := by
  cases h with
  | start =>
    cases hjob
    exact .running rfl nofun
  | ask =>
    cases hjob with
    | running hrest => exact .running hrest fun _ => List.cons_ne_nil _ _
  | @answer _ texts errors s left permits traffic =>
    cases hjob with
    | running hrest =>
      rw [(DocumentCompiler.yields_answer hc _ _ _ hcalm).1, fetched_eq]
      refine .running ?_ nofun
      rw [← hrest, DocumentCompiler.settledSections_cons]
      simp only [List.length_append, List.length_singleton, List.append_assoc,
        List.singleton_append, ErrorLog.append_assoc]
  | @finish _ texts errors _ _ =>
    cases hjob with
    | running hrest =>
      have hdone : DocumentCompiler.assemble scope p.document texts errors =
          c.settledDocument scope p := by
        rw [DocumentCompiler.settledDocument, ← hrest]
        simp only [DocumentCompiler.settledSections, List.append_nil, ErrorLog.append_empty]
      rw [hdone]
      exact .done
  | refuse hcancelled => exact absurd (hcalm.symm.trans hcancelled) Bool.false_ne_true
  | abandon hcancelled => exact absurd (hcalm.symm.trans hcancelled) Bool.false_ne_true

end Step

/-- A job that waits goes on when a permit is free. -/
theorem exists_start (c : DocumentCompiler) (scope : Scope) (p : PlacedDocument) {k : Nat}
    (h : shared.permits = k + 1) :
    ∃ job' shared', Step c scope (.waiting p) shared .start job' shared' := by
  obtain ⟨permits, traffic⟩ := shared
  cases h
  exact ⟨_, _, .start⟩

/-- A job with a permit goes on. -/
theorem exists_step (c : DocumentCompiler) (scope : Scope) (p : PlacedDocument)
    (texts : List String) (errors : ErrorLog) {left : List Source} {fetching : Bool}
    (shared : Shared) (hleft : fetching = true → left ≠ []) :
    ∃ m job' shared',
      Step c scope (.running p texts errors left fetching) shared m job' shared' := by
  cases left with
  | nil =>
    cases fetching with
    | false => exact ⟨_, _, _, .finish⟩
    | true => exact absurd rfl (hleft rfl)
  | cons s left =>
    cases fetching with
    | false =>
      cases hcancelled : shared.traffic.cancelled with
      | false => exact ⟨_, _, _, .ask hcancelled⟩
      | true => exact ⟨_, _, _, .refuse hcancelled⟩
    | true => exact ⟨_, _, _, .answer⟩

theorem IsFor.exists_step (hjob : IsFor c scope p job) (hrunning : job.isRunning = true)
    (shared : Shared) : ∃ m job' shared', Step c scope job shared m job' shared' := by
  cases hjob with
  | waiting => cases hrunning
  | done => cases hrunning
  | running _ hleft => exact Job.exists_step c scope p _ _ shared hleft

end Job

namespace Pool

variable {pool pool' : Pool} {events : List Event} {i : Nat} {jobs : List Job} {job job' : Job}
  {m : Move} {shared : Shared}

/-! ## Lists of jobs -/

theorem elim_concat {f : Job → Nat} (hf : f (.waiting p) = 0) (i : Nat) :
    (jobs ++ [.waiting p])[i]?.elim 0 f = jobs[i]?.elim 0 f := by
  rw [List.getElem?_append]
  split
  · rfl
  · next hi =>
    rw [List.getElem?_eq_none (Nat.not_lt.1 hi)]
    cases i - jobs.length with
    | zero => exact hf
    | succ k => rfl

theorem elim_set (f : Job → Nat) (h : jobs[i]? = some job) (k : Nat) :
    (jobs.set i job')[k]?.elim 0 f = if k = i then f job' else jobs[k]?.elim 0 f := by
  have hi := (List.getElem?_eq_some_iff.1 h).1
  rw [List.getElem?_set]
  split
  · next hk =>
    subst hk
    rw [if_pos rfl]
    rfl
  · next hk => rw [if_neg (Ne.symm hk)]

/-- A job in its list, and the list with another one in its place. -/
theorem exists_append_of_getElem? (h : jobs[i]? = some job) (job' : Job) :
    ∃ front back, jobs = front ++ job :: back ∧ jobs.set i job' = front ++ job' :: back := by
  obtain ⟨hi, hjob⟩ := List.getElem?_eq_some_iff.1 h
  obtain ⟨front, back, hsplit, -, hset⟩ := @List.exists_of_set _ i job' jobs hi
  exact ⟨front, back, hjob ▸ hsplit, hset⟩

theorem countP_set (h : jobs[i]? = some job) (job' : Job) :
    (jobs.set i job').countP Job.isRunning + (if job.isRunning then 1 else 0) =
      jobs.countP Job.isRunning + (if job'.isRunning then 1 else 0) := by
  obtain ⟨front, back, hsplit, hset⟩ := exists_append_of_getElem? h job'
  rw [hset, hsplit, List.countP_append, List.countP_append, List.countP_cons, List.countP_cons]
  omega

theorem sum_work_set (h : jobs[i]? = some job) (job' : Job) :
    ((jobs.set i job').map Job.work).sum + job.work = (jobs.map Job.work).sum + job'.work := by
  obtain ⟨front, back, hsplit, hset⟩ := exists_append_of_getElem? h job'
  rw [hset, hsplit]
  simp only [List.map_append, List.map_cons, List.sum_append, List.sum_cons]
  omega

theorem count_concat_of_ne {e e' : Event} (h : e ≠ e') :
    (events ++ [e]).count e' = events.count e' := by
  rw [List.count_append, List.count_singleton, if_neg (by simpa using h), Nat.add_zero]

/-- A move of a job is counted where it changes what is told of the job. -/
theorem count_move {f : Job → Nat} {m' : Move}
    (h : ∀ k, events.count (Event.move k m') = jobs[k]?.elim 0 f) (hjob : jobs[i]? = some job)
    (hf : f job' = f job + if m = m' then 1 else 0) (k : Nat) :
    (events ++ [Event.move i m]).count (Event.move k m') = (jobs.set i job')[k]?.elim 0 f := by
  rw [elim_set f hjob, List.count_append, List.count_singleton, h]
  by_cases hk : k = i
  · subst hk
    rw [if_pos rfl, hf, hjob]
    simp
  · rw [if_neg hk, if_neg (by simp [Ne.symm hk]), Nat.add_zero]

/-! ## Pools that work -/

/-- How often something still happens to the jobs of a pool. -/
def work (pool : Pool) : Nat :=
  (pool.unspawned.map fun p => 2 * p.document.sources.length + 3).sum + (pool.jobs.map Job.work).sum

/-- How often something happens to a pool for documents. -/
def wholeWork (documents : List PlacedDocument) : Nat :=
  (documents.map fun p => 2 * p.document.sources.length + 4).sum

/-- What holds of a pool for documents whatever happens to it. -/
structure Orderly (n : Nat) (documents : List PlacedDocument) (pool : Pool) : Prop where
  unspawned : pool.unspawned = documents.drop pool.jobs.length
  length_le : pool.jobs.length ≤ documents.length
  permits : pool.shared.permits + pool.jobs.countP Job.isRunning = max n 1
  done : ∀ (i : Nat) (d : CompiledDocument), pool.collected[i]? = some d →
    pool.jobs[i]? = some (.done d)

namespace Orderly

theorem start (n : Nat) (documents : List PlacedDocument) (traffic : Traffic) :
    Orderly n documents (start n documents traffic) where
  unspawned := rfl
  length_le := Nat.zero_le _
  permits := rfl
  done := nofun

/-- The next document comes after those that have jobs. -/
theorem next {rest : List PlacedDocument} (h : Orderly n documents pool)
    (hnext : pool.unspawned = p :: rest) :
    documents[pool.jobs.length]? = some p ∧ rest = documents.drop (pool.jobs.length + 1) := by
  have hdrop := h.unspawned.symm.trans hnext
  have hlt : pool.jobs.length < documents.length := by
    by_contra hle
    rw [List.drop_eq_nil_of_le (Nat.not_lt.1 hle)] at hdrop
    cases hdrop
  rw [List.drop_eq_getElem_cons hlt] at hdrop
  obtain ⟨rfl, rfl⟩ := List.cons.inj hdrop
  exact ⟨List.getElem?_eq_getElem hlt, rfl⟩

theorem length_eq (h : Orderly n documents pool) (hall : pool.unspawned = []) :
    pool.jobs.length = documents.length :=
  Nat.le_antisymm h.length_le (List.drop_eq_nil_iff.1 (h.unspawned.symm.trans hall))

theorem collected_le (h : Orderly n documents pool) :
    pool.collected.length ≤ pool.jobs.length := by
  by_contra hlt
  have hlast := h.done pool.jobs.length _ (List.getElem?_eq_getElem (Nat.not_le.1 hlt))
  rw [List.getElem?_eq_none (Nat.le_refl _)] at hlast
  cases hlast

theorem running_le (h : Orderly n documents pool) :
    pool.jobs.countP Job.isRunning ≤ max n 1 := by
  have hpermits := h.permits
  omega

theorem step {e : Event} (h : Orderly n documents pool) (hstep : Step c scope pool e pool') :
    Orderly n documents pool' := by
  cases hstep with
  | spawn hnext =>
    obtain ⟨hp, hrest⟩ := h.next hnext
    constructor
    case unspawned => simpa using hrest
    case length_le => simpa using (List.getElem?_eq_some_iff.1 hp).1
    case permits => simpa [Job.isRunning] using h.permits
    case done =>
      intro i d hd
      have hjob := h.done i d hd
      exact (List.getElem?_append_left (List.getElem?_eq_some_iff.1 hjob).1).trans hjob
  | @move i job job' m shared hjob hmove =>
    constructor
    case unspawned => simpa using h.unspawned
    case length_le => simpa using h.length_le
    case permits =>
      have hpermits := h.permits
      have hheld := hmove.permits_eq
      have hcount := countP_set hjob job'
      dsimp only
      omega
    case done =>
      intro k d hd
      have hk := h.done k d hd
      -- a job that is done does not go on
      have hne : i ≠ k := by
        rintro rfl
        cases hjob.symm.trans hk
        cases hmove
      exact (List.getElem?_set_ne hne).trans hk
  | @collect d hall hjob =>
    constructor
    case unspawned => exact h.unspawned
    case length_le => exact h.length_le
    case permits => exact h.permits
    case done =>
      intro i d' hd
      rw [List.getElem?_append] at hd
      split at hd
      · exact h.done i d' hd
      · obtain ⟨hi, rfl⟩ : i - pool.collected.length = 0 ∧ d = d' := by
          simpa [List.getElem?_singleton] using hd
        obtain rfl : i = pool.collected.length := by omega
        exact hjob
  | cancel => exact ⟨h.unspawned, h.length_le, h.permits, h.done⟩

/-- A pool is never stuck if the jobs with a permit are not. -/
theorem exists_step (h : Orderly n documents pool) (hdone : ¬ pool.IsDone)
    (hjobs : ∀ job ∈ pool.jobs, job.isRunning = true →
      ∃ m job' shared', Job.Step c scope job pool.shared m job' shared') :
    ∃ e pool', e ≠ .cancel ∧ Step c scope pool e pool' := by
  cases hnext : pool.unspawned with
  | cons p rest => exact ⟨.spawn, _, nofun, .spawn hnext⟩
  | nil =>
    have hlt : pool.collected.length < pool.jobs.length :=
      Nat.lt_of_le_of_ne h.collected_le fun hsame => hdone ⟨hnext, hsame⟩
    -- the next document to be collected is there, or its job or another one goes on
    have hjob := List.getElem?_eq_getElem hlt
    generalize pool.jobs[pool.collected.length] = job at hjob
    cases job with
    | done d => exact ⟨.collect, _, nofun, .collect hnext hjob⟩
    | running =>
      obtain ⟨m, job', shared, hstep⟩ := hjobs _ (List.mem_of_getElem? hjob) rfl
      exact ⟨.move _ m, _, nofun, .move hjob hstep⟩
    | waiting q =>
      cases hpermits : pool.shared.permits with
      | succ k =>
        obtain ⟨job', shared, hstep⟩ := Job.exists_start c scope q hpermits
        exact ⟨.move _ .start, _, nofun, .move hjob hstep⟩
      | zero =>
        have hpositive : 0 < pool.jobs.countP Job.isRunning := by
          have hheld := h.permits
          omega
        obtain ⟨job, hmem, hrunning⟩ := List.countP_pos_iff.1 hpositive
        obtain ⟨i, hi⟩ := List.getElem?_of_mem hmem
        obtain ⟨m, job', shared, hstep⟩ := hjobs job hmem hrunning
        exact ⟨.move i m, _, nofun, .move hi hstep⟩

end Orderly

/-- What holds of a pool that has worked on documents without being called off, and of what has
happened to it. -/
structure Underway (c : DocumentCompiler) (scope : Scope) (n : Nat)
    (documents : List PlacedDocument) (events : List Event) (pool : Pool) : Prop
    extends Orderly n documents pool where
  calm : pool.shared.traffic.cancelled = false
  isFor : ∀ (i : Nat) (job : Job), pool.jobs[i]? = some job →
    ∃ p, documents[i]? = some p ∧ job.IsFor c scope p
  collected : pool.collected <+: documents.map (c.settledDocument scope)
  told : pool.told = pool.collected.zipIdx.map fun (d, i) =>
    .compiled d.outputPath (i + 1) documents.length
  work_eq :
    pool.work + events.length + documents.length = wholeWork documents + pool.collected.length
  started : ∀ i, events.count (.move i .start) = pool.jobs[i]?.elim 0 Job.started
  ended : ∀ i, events.count (.move i .finish) = pool.jobs[i]?.elim 0 Job.ended

namespace Underway

theorem start (ht : traffic.cancelled = false) :
    Underway c scope n documents [] (start n documents traffic) where
  toOrderly := .start n documents traffic
  calm := ht
  isFor := nofun
  collected := List.nil_prefix
  told := rfl
  work_eq := by
    induction documents with
    | nil => rfl
    | cons p rest ih =>
      simp only [work, Pool.start, wholeWork, List.map_cons, List.sum_cons, List.map_nil,
        List.sum_nil, List.length_nil, List.length_cons] at ih ⊢
      omega
  started _ := rfl
  ended _ := rfl

theorem spawn {rest : List PlacedDocument} (h : Underway c scope n documents events pool)
    (hnext : pool.unspawned = p :: rest) :
    Underway c scope n documents (events ++ [.spawn])
      { pool with unspawned := rest, jobs := pool.jobs ++ [.waiting p] } := by
  constructor
  case toOrderly => exact h.toOrderly.step (.spawn hnext : Step c scope pool .spawn _)
  case calm => exact h.calm
  case isFor =>
    intro i job hjob
    rw [List.getElem?_append] at hjob
    split at hjob
    · exact h.isFor i job hjob
    · next hi =>
      obtain ⟨hi', rfl⟩ : i - pool.jobs.length = 0 ∧ Job.waiting p = job := by
        simpa [List.getElem?_singleton] using hjob
      obtain rfl : i = pool.jobs.length := by omega
      exact ⟨p, (h.next hnext).1, .waiting⟩
  case collected => exact h.collected
  case told => exact h.told
  case work_eq =>
    have hwork := h.work_eq
    simp only [work, hnext, List.map_cons, List.sum_cons, List.map_append, List.sum_append,
      List.map_nil, List.sum_nil, Job.work, List.length_append, List.length_singleton] at hwork ⊢
    omega
  case started =>
    intro i
    rw [elim_concat rfl, count_concat_of_ne (by simp), h.started]
  case ended =>
    intro i
    rw [elim_concat rfl, count_concat_of_ne (by simp), h.ended]

theorem move (h : Underway c scope n documents events pool) (hc : c.fetchers.Steady)
    (hjob : pool.jobs[i]? = some job) (hstep : job.Step c scope pool.shared m job' shared) :
    Underway c scope n documents (events ++ [.move i m])
      { pool with jobs := pool.jobs.set i job', shared := shared } := by
  constructor
  case toOrderly => exact h.toOrderly.step (.move hjob hstep)
  case calm => exact hstep.calm hc h.calm
  case isFor =>
    intro k job₂ hk
    rw [List.getElem?_set] at hk
    split at hk
    · next hsame =>
      subst hsame
      obtain ⟨p, hp, hfor⟩ := h.isFor i job hjob
      rw [if_pos (List.getElem?_eq_some_iff.1 hjob).1] at hk
      cases hk
      exact ⟨p, hp, hstep.isFor hc h.calm hfor⟩
    · exact h.isFor k job₂ hk
  case collected => exact h.collected
  case told => exact h.told
  case work_eq =>
    have hwork := h.work_eq
    have hsum := sum_work_set hjob job'
    have hless := hstep.work_eq h.calm
    simp only [work, List.length_append, List.length_singleton] at hwork ⊢
    omega
  case started => exact count_move h.started hjob hstep.started_eq
  case ended => exact count_move h.ended hjob hstep.ended_eq

theorem collect {d : CompiledDocument} (h : Underway c scope n documents events pool)
    (hall : pool.unspawned = []) (hjob : pool.jobs[pool.collected.length]? = some (.done d)) :
    Underway c scope n documents (events ++ [.collect])
      { pool with
        collected := pool.collected ++ [d]
        told := pool.told ++
          [.compiled d.outputPath (pool.collected.length + 1) pool.jobs.length] } := by
  obtain ⟨p, hp, hfor⟩ := h.isFor _ _ hjob
  cases hfor
  constructor
  case toOrderly => exact h.toOrderly.step (.collect hall hjob : Step c scope pool .collect _)
  case calm => exact h.calm
  case isFor => exact h.isFor
  case collected =>
    have hlt : pool.collected.length < (documents.map (c.settledDocument scope)).length := by
      rw [List.length_map]
      exact (List.getElem?_eq_some_iff.1 hp).1
    have hd : (documents.map (c.settledDocument scope)).get ⟨_, hlt⟩ =
        c.settledDocument scope p := by
      rw [List.get_eq_getElem, List.getElem_map, (List.getElem?_eq_some_iff.1 hp).2]
    exact hd ▸ List.concat_get_prefix h.collected hlt
  case told =>
    rw [h.length_eq hall, h.told, List.zipIdx_append, List.map_append]
    simp
  case work_eq =>
    have hwork := h.work_eq
    simp only [work, List.length_append, List.length_singleton] at hwork ⊢
    omega
  case started =>
    intro i
    rw [count_concat_of_ne (by simp), h.started]
  case ended =>
    intro i
    rw [count_concat_of_ne (by simp), h.ended]

theorem step {e : Event} (h : Underway c scope n documents events pool) (hc : c.fetchers.Steady)
    (hstep : Step c scope pool e pool') (he : e ≠ .cancel) :
    Underway c scope n documents (events ++ [e]) pool' := by
  cases hstep with
  | spawn hnext => exact h.spawn hnext
  | move hjob hstep => exact h.move hc hjob hstep
  | collect hall hjob => exact h.collect hall hjob
  | cancel => exact absurd rfl he

theorem length_events_le (h : Underway c scope n documents events pool) :
    events.length ≤ wholeWork documents := by
  have hwork := h.work_eq
  have hle := h.collected_le.trans h.length_le
  omega

/-- A pool is never stuck. -/
theorem exists_step (h : Underway c scope n documents events pool) (hdone : ¬ pool.IsDone) :
    ∃ e pool', e ≠ .cancel ∧ Step c scope pool e pool' := by
  refine h.toOrderly.exists_step hdone fun job hmem hrunning => ?_
  obtain ⟨i, hi⟩ := List.getElem?_of_mem hmem
  obtain ⟨p, -, hfor⟩ := h.isFor i job hi
  exact hfor.exists_step hrunning _

/-- What happens to a pool can go on until it is done. -/
theorem exists_done {first : Pool} (h : Underway c scope n documents events pool)
    (hc : c.fetchers.Steady) (hruns : Runs c scope first events pool) :
    ∃ more pool', .cancel ∉ more ∧ Runs c scope first (events ++ more) pool' ∧ pool'.IsDone := by
  induction hleft : wholeWork documents - events.length using Nat.strong_induction_on
    generalizing events pool with
  | _ left ih =>
    by_cases hdone : pool.IsDone
    · exact ⟨[], pool, List.not_mem_nil, by rwa [List.append_nil], hdone⟩
    · obtain ⟨e, pool', he, hstep⟩ := h.exists_step hdone
      have h' := h.step hc hstep he
      have hle := h'.length_events_le
      rw [List.length_append, List.length_singleton] at hle
      obtain ⟨more, pool'', hmore, hruns', hdone'⟩ := ih _ (by
        rw [List.length_append, List.length_singleton]
        omega) h' (hruns.step hstep) rfl
      refine ⟨e :: more, pool'', ?_, by rwa [List.append_cons], hdone'⟩
      exact fun hmem => (List.mem_cons.1 hmem).elim (fun hsame => he hsame.symm) hmore

/-- In the end a pool has all documents, and each was started and finished once. -/
theorem of_isDone (h : Underway c scope n documents events pool) (hdone : pool.IsDone) :
    pool.collected = documents.map (c.settledDocument scope) ∧
      pool.told = Progress.ofCompiled pool.collected ∧
      ∀ i < documents.length,
        events.count (.move i .start) = 1 ∧ events.count (.move i .finish) = 1 := by
  obtain ⟨hall, hlength⟩ := hdone
  have hsame : pool.collected.length = documents.length := hlength.trans (h.length_eq hall)
  refine ⟨h.collected.eq_of_length (by rw [hsame, List.length_map]), ?_, fun i hi => ?_⟩
  · rw [h.told, Progress.ofCompiled, hsame]
  · have hd := h.done i _ (List.getElem?_eq_getElem (hsame ▸ hi))
    rw [h.started, h.ended, hd]
    exact ⟨rfl, rfl⟩

end Underway

/-! ## Runs -/

theorem underway (hc : c.fetchers.Steady) (ht : traffic.cancelled = false)
    (h : Runs c scope (Pool.start n documents traffic) events pool) (hcancel : .cancel ∉ events) :
    Underway c scope n documents events pool := by
  induction h with
  | refl => exact .start ht
  | step _ hstep ih =>
    rw [List.mem_append, not_or] at hcancel
    exact (ih hcancel.1).step hc hstep fun he => hcancel.2 (by rw [he]; exact List.mem_cons_self)

theorem exists_compiles (hc : c.fetchers.Steady) (scope : Scope) (n : Nat)
    (documents : List PlacedDocument) (ht : traffic.cancelled = false) :
    ∃ batch, Compiles c scope n documents traffic batch := by
  have hstart : Underway c scope n documents [] (Pool.start n documents traffic) := .start ht
  obtain ⟨more, pool, hmore, hruns, hdone⟩ := hstart.exists_done hc .refl
  exact ⟨_, more, pool, hruns, hmore, hdone, rfl⟩

/-- What a pool compiles is what compiling in order comes to. -/
theorem Compiles.eq {batch : RunWorld.Batch} (hc : c.fetchers.Steady)
    (ht : traffic.cancelled = false) (h : Compiles c scope n documents traffic batch) :
    let inOrder := RunWorld.compileBatch c scope documents traffic
    batch.documents = inOrder.documents ∧ batch.told = inOrder.told ∧
      batch.traffic.cancelled = inOrder.traffic.cancelled := by
  obtain ⟨events, pool, hruns, hcancel, hdone, rfl⟩ := h
  have hunderway := underway hc ht hruns hcancel
  obtain ⟨hcollected, htold, -⟩ := hunderway.of_isDone hdone
  obtain ⟨hvalue, hcalm⟩ := DocumentCompiler.yields_compileAll hc scope documents traffic ht
  refine ⟨hcollected.trans hvalue.symm, ?_, hunderway.calm.trans hcalm.symm⟩
  rw [htold, hcollected, ← hvalue]
  rfl

end Pool

namespace RunWorld

/-- A run takes from compiling only the documents, what is told of them, and whether the run is
called off. -/
theorem generateBy_congr {w : RunWorld} {o : RunOptions} {cancelled : Bool}
    {compile compile' : Registry → Traffic → Batch}
    (h : ∀ r traffic, traffic.cancelled = cancelled →
      (compile r traffic).documents = (compile' r traffic).documents ∧
      (compile r traffic).told = (compile' r traffic).told ∧
      (compile r traffic).traffic.cancelled = (compile' r traffic).traffic.cancelled) :
    w.generateBy o cancelled compile = w.generateBy o cancelled compile' := by
  unfold generateBy
  cases w.load o with
  | error e => rfl
  | ok loaded =>
    obtain ⟨hdocuments, htold, hcancelled⟩ :=
      h loaded.registry { loaded.traffic with cancelled := cancelled } rfl
    dsimp only
    rw [hdocuments, htold, hcancelled]

end RunWorld

namespace Pool

/-- As long as a run is not called off and fetching is steady, a pool never works on more documents
than it may, never gets stuck, starts and finishes each document once, and comes to what compiling
in order comes to. So the files, the progress and the report of a run are the same whatever number
of documents is compiled at once, and in whatever order their jobs go on. -/
theorem runs_as_in_order :
    (∀ (c : DocumentCompiler) (scope : Scope) (n : Nat) (documents : List PlacedDocument)
      (traffic : Traffic) (events : List Event) (pool : Pool),
      c.fetchers.Steady → traffic.cancelled = false →
      Runs c scope (Pool.start n documents traffic) events pool → .cancel ∉ events →
      pool.jobs.countP Job.isRunning ≤ max n 1 ∧
      events.length ≤ wholeWork documents ∧
      (∃ more pool', .cancel ∉ more ∧
        Runs c scope (Pool.start n documents traffic) (events ++ more) pool' ∧ pool'.IsDone) ∧
      (pool.IsDone →
        pool.collected = ((RunWorld.compileAll c scope documents).run traffic).1 ∧
        pool.told = Progress.ofCompiled pool.collected ∧
        ∀ i < documents.length,
          events.count (.move i .start) = 1 ∧ events.count (.move i .finish) = 1)) ∧
    ∀ (w : RunWorld) (o : RunOptions) (n : Nat) (compile : Registry → Traffic → RunWorld.Batch),
      (∀ r traffic, traffic.cancelled = false →
        Compiles (w.compiler o) (w.documentScope o r) n r.documents traffic (compile r traffic)) →
      w.generateBy { o with concurrency := n } false compile = w.generate o false := by
  constructor
  · intro c scope n documents traffic events pool hc ht hruns hcancel
    have h := underway hc ht hruns hcancel
    refine ⟨h.running_le, h.length_events_le, h.exists_done hc hruns, fun hdone => ?_⟩
    obtain ⟨hcollected, htold, honce⟩ := h.of_isDone hdone
    have hvalue := (DocumentCompiler.yields_compileAll hc scope documents traffic ht).1
    exact ⟨hcollected.trans hvalue.symm, htold, honce⟩
  · intro w o n compile h
    exact RunWorld.generateBy_congr fun r traffic ht =>
      (h r traffic ht).eq (FetcherRegistry.steady_standard w.toWorld) ht

/-- A world without files, and with no web. -/
def still : RunWorld where
  storage := ⟨[], []⟩
  web := ⟨.empty, false⟩
  git := none
  githubApi := usualGithubApi
  env := .empty
  machine := ⟨⟨0, 0⟩, "linux", "x86_64", 1, none⟩

def stillOptions : RunOptions :=
  ⟨"/", none, none, none, "out", 1, .ofSeconds 1, none, none, none⟩

/-- Two documents with one source each. -/
def pair : List PlacedDocument :=
  ["a", "b"].map fun path =>
    ⟨⟨"/context.yaml", 0⟩, "/", ⟨"", path, true, [], [⟨"", none, [], .text path⟩], []⟩⟩

/-- The second document may get the only permit first. -/
theorem pair_overtaken :
    ∃ pool, Runs (still.compiler stillOptions) .empty (Pool.start 0 pair .none)
      [.spawn, .spawn, .move 1 .start, .move 1 .ask] pool :=
  ⟨_, (((Runs.refl.step (.spawn rfl)).step (.spawn rfl)).step (.move rfl .start)).step
    (.move rfl (.ask rfl))⟩

theorem pair_as_in_order :
    (∃ more pool, Runs (still.compiler stillOptions) .empty (Pool.start 0 pair .none)
        ([.spawn, .spawn, .move 1 .start, .move 1 .ask] ++ more) pool ∧ pool.IsDone ∧
      pool.collected.map CompiledDocument.content =
        ["<INSTRUCTION>\na\n</INSTRUCTION>\n", "<INSTRUCTION>\nb\n</INSTRUCTION>\n"]) ∧
    ∃ compile, (∀ r traffic, traffic.cancelled = false →
        Compiles (still.compiler stillOptions) (still.documentScope stillOptions r) 0 r.documents
          traffic (compile r traffic)) ∧
      still.generateBy { stillOptions with concurrency := 0 } false compile =
        still.generate stillOptions false := by
  obtain ⟨hpool, hgenerate⟩ := runs_as_in_order
  have hsteady : (still.compiler stillOptions).fetchers.Steady :=
    FetcherRegistry.steady_standard still.toWorld
  constructor
  · obtain ⟨pool, hruns⟩ := pair_overtaken
    obtain ⟨-, -, ⟨more, pool', hmore, hruns', hdone⟩, -⟩ :=
      hpool _ _ _ _ _ _ _ hsteady rfl hruns (by decide)
    obtain ⟨-, -, -, hend⟩ := hpool _ _ _ _ _ _ _ hsteady rfl hruns' (by simp [hmore])
    refine ⟨more, pool', hruns', hdone, ?_⟩
    rw [(hend hdone).1]
    cbv
  · have hcompiles : ∀ r : Registry, ∀ traffic : Traffic, ∃ batch, traffic.cancelled = false →
        Compiles (still.compiler stillOptions) (still.documentScope stillOptions r) 0 r.documents
          traffic batch := fun r traffic => by
      by_cases ht : traffic.cancelled = false
      · obtain ⟨batch, hbatch⟩ := exists_compiles hsteady (still.documentScope stillOptions r) 0
          r.documents ht
        exact ⟨batch, fun _ => hbatch⟩
      · exact ⟨⟨[], [], traffic⟩, fun h => absurd h ht⟩
    choose compile hcompile using hcompiles
    exact ⟨compile, hcompile, hgenerate _ _ _ _ hcompile⟩

end Pool

end ContextCompiler
