import ContextCompiler.Web.Basic

/-!
What goes out over the web.

Work that only asks the web sends the same requests and comes to the same end whatever was done
before. What several steps send is what each of them sends, in order, up to the first that fails.
-/

namespace ContextCompiler

variable {α β : Type}

namespace Fetching

variable {f : Fetching α} {g : α → Fetching β} {a : α} {e : Failure} {r : Except Failure β}
  {out more : List Request}

/-- What work comes to when nothing was done before. -/
def outcome (f : Fetching α) : Except Halt α := (f.run.run .none).1

/-- Whatever was done before, work comes to a value or a failure, sends some requests, and does
nothing else. -/
def Sends (f : Fetching α) (r : Except Failure α) (out : List Request) : Prop :=
  ∀ t, f.run.run t = (r.mapError .failure, { t with requests := t.requests ++ out })

namespace Sends

theorem pure (a : α) : Sends (pure a : Fetching α) (.ok a) [] := fun t => by
  rw [List.append_nil]
  rfl

theorem fail (e : Failure) : Sends (Fetching.fail e : Fetching α) (.error e) [] := fun t => by
  rw [List.append_nil]
  rfl

theorem ofExcept (r : Except Failure α) : Sends (Fetching.ofExcept r) r [] := by
  cases r with
  | ok a => exact .pure a
  | error e => exact .fail e

theorem lift {f : StateM Traffic α}
    (h : ∀ t, f.run t = (a, { t with requests := t.requests ++ out })) :
    Sends (liftM f : Fetching α) (.ok a) out := fun t => by
  show (Except.ok (f.run t).1, (f.run t).2) = _
  rw [h]
  rfl

theorem bind (hf : Sends f (.ok a) out) (hg : Sends (g a) r more) :
    Sends (f >>= g) r (out ++ more) := fun t => by
  rw [ExceptT.run_bind, StateT.run_bind, hf, ← List.append_assoc]
  exact hg _

/-- A last step that sends nothing. -/
theorem bind_silent (hf : Sends f (.ok a) out) (hg : Sends (g a) r []) :
    Sends (f >>= g) r out := by
  have h := hf.bind hg
  rwa [List.append_nil] at h

end Sends

end Fetching

namespace Web

open Fetching (Sends)

/-- No answer of the web sends on elsewhere. -/
def NeverSendsOn (w : Web) : Prop := ∀ url, sentOn? url (w.tableAnswer url) = none

/-- The requests that go over the line for one that is made: itself, and one for each redirection
that may be followed. -/
def IsBrief (w : Web) (hops : Nat) (out : List Request) : Prop :=
  out.length ≤ hops + 1 ∧ (w.NeverSendsOn → out.length ≤ 1)

theorem isBrief_nil (w : Web) (hops : Nat) : w.IsBrief hops [] :=
  ⟨Nat.zero_le _, fun _ => Nat.zero_le _⟩

theorem isBrief_singleton (w : Web) (hops : Nat) (r : Request) : w.IsBrief hops [r] :=
  ⟨Nat.le_add_left _ _, fun _ => Nat.le_refl _⟩

/-- What asking for a URL comes to and sends does not depend on what was done before, if that holds
of the URL that it is sent on to. -/
theorem exists_ask_of {w : Web} {hops : Nat}
    (h : ∀ n kept next, hops = n + 1 → ∃ r out, w.IsBrief n out ∧
      ∀ t, (w.ask kept n next).run t = (r, { t with requests := t.requests ++ out }))
    (headers : List (String × String)) (url : Url) : ∃ r out, w.IsBrief hops out ∧
      ∀ t, (w.ask headers hops url).run t = (r, { t with requests := t.requests ++ out }) := by
  rw [ask.eq_def]
  dsimp only
  split
  · exact ⟨_, [], w.isBrief_nil _, fun t => by rw [List.append_nil]; rfl⟩
  split
  · exact ⟨_, [], w.isBrief_nil _, fun t => by rw [List.append_nil]; rfl⟩
  cases hsent : sentOn? (lineUrl url) (w.tableAnswer (lineUrl url)) with
  | none => exact ⟨_, [_], w.isBrief_singleton _ _, fun t => rfl⟩
  | some next =>
    cases hops with
    | zero => exact ⟨_, [_], w.isBrief_singleton _ _, fun t => rfl⟩
    | succ n =>
      obtain ⟨r, out, ⟨hlength, -⟩, hr⟩ := h n (headersFor (lineUrl url) next headers) next rfl
      refine ⟨r, ⟨(lineUrl url).requestText, fullHeaders headers⟩ :: out,
        ⟨Nat.succ_le_succ hlength, fun hnever => ?_⟩, fun t => ?_⟩
      · rw [hnever] at hsent
        cases hsent
      · refine (hr _).trans ?_
        rw [List.append_assoc, List.singleton_append]

theorem exists_ask (w : Web) (headers : List (String × String)) (hops : Nat) (url : Url) :
    ∃ r out, w.IsBrief hops out ∧
      ∀ t, (w.ask headers hops url).run t = (r, { t with requests := t.requests ++ out }) := by
  induction hops generalizing headers url with
  | zero => exact exists_ask_of (fun n _ _ hn => absurd hn (Nat.succ_ne_zero n).symm) _ _
  | succ n ih =>
    refine exists_ask_of (fun m kept next hm => ?_) headers url
    cases hm
    exact ih kept next

theorem exists_sends_getUrl (w : Web) (u : Url) (what : String)
    (headers : List (String × String)) :
    ∃ r out, w.IsBrief redirectLimit out ∧ Sends (w.getUrl u what headers) r out := by
  obtain ⟨r, out, hbrief, hr⟩ := w.exists_ask headers redirectLimit u
  unfold getUrl
  split
  · exact ⟨_, [], w.isBrief_nil _, .fail _⟩
  split
  · exact ⟨_, [], w.isBrief_nil _, .fail _⟩
  cases r with
  | error reason => exact ⟨_, out, hbrief, (Sends.lift hr).bind_silent (.fail _)⟩
  | ok answer =>
    have hweighed : ∃ r', Sends (if answer.isSuccess then pure answer
        else refused what ("HTTP " ++ statusText answer.status)) r' [] := by
      split
      · exact ⟨_, .pure _⟩
      · exact ⟨_, .fail _⟩
    obtain ⟨r', hr'⟩ := hweighed
    exact ⟨r', out, hbrief, (Sends.lift hr).bind_silent hr'⟩

/-- A request comes to one end and sends the same, whatever was done before. -/
theorem exists_sends_get (w : Web) (url what : String) (headers : List (String × String)) :
    ∃ r out, w.IsBrief redirectLimit out ∧ Sends (w.get url what headers) r out := by
  unfold get
  split
  · exact ⟨_, [], w.isBrief_nil _, .fail _⟩
  · exact w.exists_sends_getUrl _ _ _

end Web

end ContextCompiler
