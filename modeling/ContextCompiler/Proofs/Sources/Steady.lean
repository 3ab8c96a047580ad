import ContextCompiler.Proofs.Web.Answers
import ContextCompiler.Sources.Fetcher

/-!
Fetching that does not depend on what else goes on.

Work is steady when its outcome is the same whatever was done before, as long as the run is not
called off, and when it does not call the run off itself. The fetchers of this library are steady,
since the storage, the web and git stand still. More than that, their work is plain: calling the
run off is none of their business at all.
-/

namespace ContextCompiler

variable {α β : Type}

/-! ## Work that yields a result -/

/-- Unless the run is called off, work yields `r` whatever was done before, and does not call the
run off. -/
def Yields (f : StateM Traffic α) (r : α) : Prop :=
  ∀ t, t.cancelled = false → (f.run t).1 = r ∧ (f.run t).2.cancelled = false

namespace Yields

theorem pure (r : α) : Yields (pure r) r := fun _ h => ⟨rfl, h⟩

theorem bind {f : StateM Traffic α} {g : α → StateM Traffic β} {a : α} {b : β} (hf : Yields f a)
    (hg : Yields (g a) b) : Yields (f >>= g) b := fun t ht => by
  obtain ⟨hvalue, ht'⟩ := hf t ht
  have h := hg (f.run t).2 ht'
  rw [← hvalue] at h
  exact h

end Yields

/-- Work yields `r` whatever was done before, and leaves alone whether the run is called off. -/
def Always (f : StateM Traffic α) (r : α) : Prop :=
  ∀ t, (f.run t).1 = r ∧ (f.run t).2.cancelled = t.cancelled

namespace Always

theorem pure (r : α) : Always (pure r) r := fun _ => ⟨rfl, rfl⟩

theorem bind {f : StateM Traffic α} {g : α → StateM Traffic β} {a : α} {b : β} (hf : Always f a)
    (hg : Always (g a) b) : Always (f >>= g) b := fun t => by
  obtain ⟨hvalue, ht'⟩ := hf t
  have h := hg (f.run t).2
  rw [← hvalue, ht'] at h
  exact h

theorem modify {f : Traffic → Traffic} (hf : ∀ t, (f t).cancelled = t.cancelled) :
    Always (modify f) ⟨⟩ := fun t => ⟨rfl, hf t⟩

theorem yields {f : StateM Traffic α} {r : α} (h : Always f r) : Yields f r := fun t ht =>
  ⟨(h t).1, (h t).2.trans ht⟩

end Always

/-! ## Plain and steady fetching -/

namespace Fetching

/-- The outcome of work does not depend on what was done before. -/
def Steady (f : Fetching α) : Prop := ∃ r, Yields f.run r

/-- Work does not call the run off. -/
def Quiet (f : Fetching α) : Prop := ∀ t, (f.run.run t).2.cancelled = t.cancelled

/-- Work has one outcome, and leaves alone whether the run is called off. -/
def Plain (f : Fetching α) : Prop := ∃ r, Always f.run r

namespace Plain

theorem steady {f : Fetching α} : Plain f → Steady f := fun ⟨r, hr⟩ => ⟨r, hr.yields⟩

theorem quiet {f : Fetching α} : Plain f → Quiet f := fun ⟨_, hr⟩ t => (hr t).2

theorem pure (a : α) : Plain (pure a : Fetching α) := ⟨_, .pure _⟩

theorem fail (e : Failure) : Plain (Fetching.fail e : Fetching α) := ⟨_, .pure _⟩

theorem ofExcept (r : Except Failure α) : Plain (Fetching.ofExcept r) := by
  cases r with
  | ok a => exact .pure a
  | error e => exact .fail e

/-- What sends requests and does nothing else is plain. -/
theorem of_sends {f : Fetching α} {r : Except Failure α} {out : List Request}
    (h : Sends f r out) : Plain f :=
  ⟨r.mapError .failure, fun t => ⟨congrArg Prod.fst (h t), congrArg (·.2.cancelled) (h t)⟩⟩

theorem lift {f : StateM Traffic α} {r : α} (h : Always f r) : Plain (liftM f : Fetching α) :=
  ⟨.ok r, fun t => by
    obtain ⟨hvalue, ht'⟩ := h t
    exact ⟨congrArg Except.ok hvalue, ht'⟩⟩

theorem bind {f : Fetching α} {g : α → Fetching β} (hf : Plain f) (hg : ∀ a, Plain (g a)) :
    Plain (f >>= g) := by
  obtain ⟨r, hr⟩ := hf
  rw [Plain, ExceptT.run_bind]
  cases r with
  | error e => exact ⟨.error e, hr.bind (.pure _)⟩
  | ok a =>
    obtain ⟨b, hb⟩ := hg a
    exact ⟨b, hr.bind hb⟩

theorem mapM {f : α → Fetching β} (h : ∀ a, Plain (f a)) (l : List α) : Plain (l.mapM f) := by
  induction l with
  | nil => exact .pure []
  | cons a l ih =>
    rw [List.mapM_cons]
    exact (h a).bind fun b => ih.bind fun bs => .pure (b :: bs)

end Plain

end Fetching

open Fetching (Plain)

/-! ## The web -/

namespace Web

theorem plain_get (w : Web) (url what : String) (headers : List (String × String)) :
    Plain (w.get url what headers) := by
  obtain ⟨r, out, -, h⟩ := w.exists_sends_get url what headers
  exact .of_sends h

end Web

/-! ## The fetchers of this library -/

theorem UrlSource.plain_fetch (spec : UrlSource) (w : World) : Plain (spec.fetch w) := by
  have hone : ∀ text, Plain (spec.fetchOne w text) := fun text => by
    unfold fetchOne
    split
    · exact .fail _
    · exact (w.web.plain_get _ _ _).bind fun answer =>
        (Plain.ofExcept _).bind fun body => .pure _
  unfold fetch
  split
  · exact .fail _
  · exact (Plain.mapM hone _).bind fun parts => .pure _

theorem GithubSource.plain_fetch (spec : GithubSource) (w : World) (ctx : FetchContext) :
    Plain (spec.fetch w ctx) := by
  have hask : ∀ accept token url, Plain (ask w accept token url) := fun _ _ _ =>
    (w.web.plain_get _ _ _).bind fun answer => .pure _
  unfold fetch
  dsimp only
  split
  · exact .fail _
  · refine (hask _ _ _).bind fun listing => (Plain.ofExcept _).bind fun items => ?_
    exact (Plain.mapM (fun path => (hask _ _ _).bind fun content => .pure _) _).bind
      fun blocks => .pure _

theorem GitlabSource.plain_listPages (spec : GitlabSource) {ask : String → Fetching Answer}
    (hask : ∀ page, Plain (ask page)) (left : Nat) (page : String) :
    Plain (spec.listPages ask left page) := by
  induction left generalizing page with
  | zero => exact .fail _
  | succ left ih =>
    rw [listPages]
    refine (hask page).bind fun answer => (Plain.ofExcept _).bind fun items => ?_
    dsimp only
    split
    · exact .pure _
    · exact (ih _).bind fun more => .pure _

theorem GitlabSource.plain_fetch (spec : GitlabSource) (w : World) (ctx : FetchContext) :
    Plain (spec.fetch w ctx) := by
  have hask : ∀ token url, Plain (ask w token url) := fun _ _ => w.web.plain_get _ _ _
  unfold fetch
  dsimp only
  split
  · exact .fail _
  · refine (spec.plain_listPages (fun page => hask _ _) _ _).bind fun listed => ?_
    exact (Plain.mapM (fun path => (hask _ _).bind fun answer => .pure _) _).bind
      fun blocks => .pure _

theorem GitDiffSource.plain_fetch (spec : GitDiffSource) (w : World) (ctx : FetchContext) :
    Plain (spec.fetch w ctx) := by
  unfold fetch
  dsimp only
  split
  · exact .fail _
  · refine Plain.bind (Plain.lift (.modify fun _ => rfl)) fun _ => ?_
    split
    · exact .pure _
    · exact .fail _

theorem Fetcher.plain_standard (w : World) (type : SourceType) (ctx : FetchContext) (s : Source) :
    Plain ((Fetcher.standard w type).fetch ctx s) := by
  unfold standard
  dsimp only
  split
  · exact .fail _
  · split
    · exact .pure _
    · exact .ofExcept _
    · exact .ofExcept _
    · exact UrlSource.plain_fetch _ w
    · exact GithubSource.plain_fetch _ w ctx
    · exact GitlabSource.plain_fetch _ w ctx
    · exact GitDiffSource.plain_fetch _ w ctx

/-- All fetching of a registry is steady. -/
def FetcherRegistry.Steady (r : FetcherRegistry) : Prop :=
  ∀ ctx s, Fetching.Steady (r.fetch ctx s)

/-- No fetching of a registry calls the run off. -/
def FetcherRegistry.Quiet (r : FetcherRegistry) : Prop :=
  ∀ ctx s, Fetching.Quiet (r.fetch ctx s)

theorem FetcherRegistry.plain_standard (w : World) (ctx : FetchContext) (s : Source) :
    Plain ((FetcherRegistry.standard w).fetch ctx s) := by
  unfold fetch
  split
  · next f hf =>
    obtain ⟨type, -, rfl⟩ := List.mem_map.1 (List.mem_of_find?_eq_some hf)
    exact Fetcher.plain_standard w type ctx s
  · exact .fail _

theorem FetcherRegistry.steady_standard (w : World) : (FetcherRegistry.standard w).Steady :=
  fun ctx s => (plain_standard w ctx s).steady

theorem FetcherRegistry.quiet_standard (w : World) : (FetcherRegistry.standard w).Quiet :=
  fun ctx s => (plain_standard w ctx s).quiet

end ContextCompiler
