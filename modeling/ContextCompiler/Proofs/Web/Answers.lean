import ContextCompiler.Proofs.Url.Relative
import ContextCompiler.Proofs.Web.Requests

/-!
What the web answers.

The answer to a request does not depend on what was asked before. A successful one stands in the
table of answers, and so does the one for the URL that was asked for first, which may send
elsewhere.
-/

namespace ContextCompiler

namespace Web

variable {w : Web} {headers : List (String × String)} {hops : Nat} {url : Url} {what : String}
  {answer : Answer} {r : Except String Answer} {t : Traffic}

/-- The result of asking for a URL, whatever was done before. -/
def Asked (w : Web) (headers : List (String × String)) (hops : Nat) (url : Url)
    (r : Except String Answer) : Prop :=
  ∀ t, ((w.ask headers hops url).run t).1 = r

/-- The table has an answer for a URL. -/
def Knows (w : Web) (url : Url) : Prop := ∃ a, w.answers.get? url.requestText = some a

theorem knows_of_sentOn? {next : Url} (h : sentOn? url (w.tableAnswer url) = some next) :
    w.Knows url := by
  unfold tableAnswer at h
  cases hget : w.answers.get? url.requestText with
  | some a => exact ⟨a, hget⟩
  | none =>
    rw [hget] at h
    exact nomatch h

/-- A request fails, yields what the table has, or is sent on by that. -/
theorem ask_cases (w : Web) (headers : List (String × String)) (hops : Nat) (url : Url) :
    (∃ e, Asked w headers hops url (.error e)) ∨
    (url.schemeText = "http" ∧ Asked w headers hops url (.ok (w.tableAnswer (lineUrl url)))) ∨
    (url.schemeText = "http" ∧ w.Knows (lineUrl url) ∧
      ∃ n kept next, hops = n + 1 ∧ ∀ r, Asked w kept n next r → Asked w headers hops url r) := by
  by_cases hscheme : (lineUrl url).schemeText != "http" && (lineUrl url).schemeText != "https"
  · refine .inl ⟨troubleWith (lineUrl url) "builder error", fun t => ?_⟩
    rw [ask.eq_def, if_pos hscheme]
    rfl
  by_cases hup : !w.isUp || (lineUrl url).schemeText != "http"
  · refine .inl ⟨troubleWith (lineUrl url) "error sending request", fun t => ?_⟩
    rw [ask.eq_def, if_neg hscheme, if_pos hup]
    rfl
  have hhttp : url.schemeText = "http" := by
    rw [Bool.or_eq_true, not_or] at hup
    exact Decidable.not_not.1 fun hne => hup.2 (bne_iff_ne.2 hne)
  cases hsent : sentOn? (lineUrl url) (w.tableAnswer (lineUrl url)) with
  | none =>
    refine .inr (.inl ⟨hhttp, fun t => ?_⟩)
    rw [ask.eq_def, if_neg hscheme, if_neg hup, hsent]
    rfl
  | some next =>
    cases hops with
    | zero =>
      refine .inl ⟨troubleWith next "error following redirect", fun t => ?_⟩
      rw [ask.eq_def, if_neg hscheme, if_neg hup, hsent]
      rfl
    | succ n =>
      refine .inr (.inr ⟨hhttp, knows_of_sentOn? hsent, n, headersFor (lineUrl url) next headers,
        next, rfl, fun r hr t => ?_⟩)
      rw [ask.eq_def, if_neg hscheme, if_neg hup, hsent]
      exact hr _

/-- The result of asking is the same whatever was done before. -/
theorem exists_asked (w : Web) (headers : List (String × String)) (hops : Nat) (url : Url) :
    ∃ r, Asked w headers hops url r := by
  obtain ⟨r, out, -, hr⟩ := w.exists_ask headers hops url
  exact ⟨r, fun t => congrArg Prod.fst (hr t)⟩

theorem Asked.eq {r' : Except String Answer} (h : Asked w headers hops url r)
    (h' : Asked w headers hops url r') : r = r' := (h .none).symm.trans (h' .none)

/-- A successful answer is one of the table. -/
theorem mem_of_tableAnswer (hs : (w.tableAnswer url).isSuccess = true) :
    w.answers.get? url.requestText = some (w.tableAnswer url) := by
  unfold tableAnswer at hs ⊢
  cases hget : w.answers.get? url.requestText with
  | some a => rfl
  | none =>
    rw [hget] at hs
    exact absurd hs (by decide)

/-- When a request is answered with success, the table knows the URL that was asked for, and has
the answer. -/
theorem Asked.known (h : Asked w headers hops url (.ok answer)) (hs : answer.isSuccess = true) :
    url.schemeText = "http" ∧ w.Knows (lineUrl url) ∧ ∃ k, w.answers.get? k = some answer := by
  induction hops generalizing headers url with
  | zero =>
    rcases ask_cases w headers 0 url with ⟨e, h'⟩ | ⟨hhttp, h'⟩ | ⟨-, -, n, _, _, hn, -⟩
    · exact nomatch h.eq h'
    · cases h.eq h'
      exact ⟨hhttp, ⟨_, mem_of_tableAnswer hs⟩, _, mem_of_tableAnswer hs⟩
    · exact absurd hn (Nat.succ_ne_zero n).symm
  | succ n ih =>
    rcases ask_cases w headers (n + 1) url with
      ⟨e, h'⟩ | ⟨hhttp, h'⟩ | ⟨hhttp, hknown, m, kept, next, hm, hnext⟩
    · exact nomatch h.eq h'
    · cases h.eq h'
      exact ⟨hhttp, ⟨_, mem_of_tableAnswer hs⟩, _, mem_of_tableAnswer hs⟩
    · cases hm
      obtain ⟨r, hr⟩ := exists_asked w kept n next
      cases h.eq (hnext r hr)
      exact ⟨hhttp, hknown, (ih hr).2.2⟩

/-- What asking for a URL comes to when its answer is weighed. -/
def outcome (what : String) (r : Except String Answer) : Except Halt Answer :=
  match r with
  | .error reason => .error (.failure (.network (what ++ ": " ++ reason)))
  | .ok answer =>
    if answer.isSuccess then .ok answer
    else .error (.failure (.network (what ++ ": " ++ ("HTTP " ++ statusText answer.status))))

/-- What a request for a URL comes to does not depend on what was done before. -/
theorem getUrl_steady (w : Web) (u : Url) (what : String) (headers : List (String × String))
    (t : Traffic) :
    ((w.getUrl u what headers).run t).1 = ((w.getUrl u what headers).run .none).1 := by
  obtain ⟨r, out, -, h⟩ := w.exists_sends_getUrl u what headers
  exact (congrArg Prod.fst (h t)).trans (congrArg Prod.fst (h .none)).symm

end Web

end ContextCompiler
