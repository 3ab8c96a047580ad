import Mathlib.Logic.Relation
import ContextCompiler.Proofs.Except
import ContextCompiler.Prompts.Flatten

/-!
Which messages a prompt has after inheritance.

The entries of a prompt lead to other prompts, each to the last declaration of its id (`Extends`).
What messages a prompt then has is said without regard to how the graph is gone through
(`Resolves`). The resolution keeps the ids that are not on the way from the prompt that is asked
for, and takes an id back when it leaves a prompt, so that two entries may lead to one prompt. It
comes to a result exactly when the inheritance works out (`WorksOut`), and the result is what the
prompt has.
-/

namespace ContextCompiler

section Pairs

variable {α β : Type} {R : α → β → Prop} {xs : List α} {ys : List β}

theorem exists_of_forall₂ (h : List.Forall₂ R xs ys) {x : α} (hx : x ∈ xs) : ∃ y, R x y := by
  induction h with
  | nil => exact absurd hx List.not_mem_nil
  | cons hxy _ ih =>
    rcases List.mem_cons.1 hx with rfl | hx
    · exact ⟨_, hxy⟩
    · exact ih hx

theorem exists_forall₂ (h : ∀ x ∈ xs, ∃ y, R x y) : ∃ ys, List.Forall₂ R xs ys := by
  induction xs with
  | nil => exact ⟨[], .nil⟩
  | cons x xs ih =>
    obtain ⟨y, hy⟩ := h x List.mem_cons_self
    obtain ⟨ys, hys⟩ := ih fun z hz => h z (List.mem_cons_of_mem _ hz)
    exact ⟨y :: ys, .cons hy hys⟩

end Pairs

namespace Prompt

variable {prompts : List Prompt} {free : List String} {p q : Prompt} {id : String}
  {entries : List PromptExtension} {messages messages' inherited inherited' : List Message}

/-! ## Definitions -/

/-- An entry of `p` leads to `q`. -/
def Extends (prompts : List Prompt) (p q : Prompt) : Prop :=
  ∃ e ∈ p.extend, lastOf? prompts e.id = some q

/-- Entries lead from `p` to `q`, if only through other prompts. -/
def Reaches (prompts : List Prompt) (p q : Prompt) : Prop :=
  Relation.ReflTransGen (Extends prompts) p q

/-- Entries bring messages: in order, the inherited and the own messages of the prompt to which an
entry leads, with the arguments of the entry filled in. -/
inductive Inherits (prompts : List Prompt) : List PromptExtension → List Message → Prop
  | nil : Inherits prompts [] []
  | cons {e : PromptExtension} {rest : List PromptExtension} {parent : Prompt}
      {inherited more : List Message} :
      lastOf? prompts e.id = some parent → Inherits prompts parent.extend inherited →
      Inherits prompts rest more →
      Inherits prompts (e :: rest)
        ((inherited ++ parent.messages).map (fillMessage e.arguments) ++ more)

/-- The messages that a prompt has: those that its entries bring, then its own. -/
def Resolves (prompts : List Prompt) (p : Prompt) (messages : List Message) : Prop :=
  ∃ inherited, Inherits prompts p.extend inherited ∧ messages = inherited ++ p.messages

/-- An entry passes on the messages of the prompt it leads to, with its arguments filled in. `Has`
tells which messages a prompt has. -/
def PassesOn (prompts : List Prompt) (Has : Prompt → List Message → Prop) (e : PromptExtension)
    (part : List Message) : Prop :=
  ∃ parent messages, lastOf? prompts e.id = some parent ∧ Has parent messages ∧
    part = messages.map (fillMessage e.arguments)

/-- A template has to have messages. -/
def Lacks (p : Prompt) (messages : List Message) : Prop := p.kind = .template ∧ messages = []

/-- The inheritance of a prompt works out: in all that it reaches every entry names an id that is
declared, nothing leads back to itself, and every template has messages. -/
structure WorksOut (prompts : List Prompt) (p : Prompt) : Prop where
  named : ∀ q, Reaches prompts p q → ∀ e ∈ q.extend, Text.isBlankText e.id = false
  declared : ∀ q, Reaches prompts p q → ∀ e ∈ q.extend, ∃ r ∈ prompts, r.id = e.id
  acyclic : ∀ q, Reaches prompts p q → ¬ Relation.TransGen (Extends prompts) q q
  filled : ∀ q, Reaches prompts p q → q.kind = .template → ¬ Resolves prompts q []

/-! ## Last declarations -/

theorem lastOf?_eq_some (h : lastOf? prompts id = some p) : p ∈ prompts ∧ p.id = id := by
  obtain ⟨hmem, hid⟩ := And.intro (List.mem_of_find?_eq_some h) (List.find?_some h)
  exact ⟨List.mem_reverse.1 hmem, beq_iff_eq.1 hid⟩

theorem exists_lastOf? : (∃ p, lastOf? prompts id = some p) ↔ ∃ p ∈ prompts, p.id = id := by
  rw [← Option.isSome_iff_exists, lastOf?, List.find?_isSome]
  simp only [List.mem_reverse, beq_iff_eq]

theorem Extends.lastOf? (h : Extends prompts p q) : lastOf? prompts q.id = some q := by
  obtain ⟨e, -, hlast⟩ := h
  rw [(lastOf?_eq_some hlast).2]
  exact hlast

/-- What is reached from a last declaration is the last declaration of its id. -/
theorem Reaches.lastOf? (h : Reaches prompts p q) (hp : lastOf? prompts p.id = some p) :
    lastOf? prompts q.id = some q := by
  rcases Relation.ReflTransGen.cases_tail h with rfl | ⟨r, -, hrq⟩
  · exact hp
  · exact hrq.lastOf?

theorem WorksOut.of_extends (h : p.WorksOut prompts) (hq : Extends prompts p q) :
    q.WorksOut prompts where
  named r hr := h.named r (.head hq hr)
  declared r hr := h.declared r (.head hq hr)
  acyclic r hr := h.acyclic r (.head hq hr)
  filled r hr := h.filled r (.head hq hr)

/-! ## The messages that a prompt has -/

/-- Entries bring what each of them passes on, in order. -/
theorem inherits_iff : Inherits prompts entries inherited ↔
    ∃ parts, List.Forall₂ (PassesOn prompts (Resolves prompts)) entries parts ∧
      inherited = parts.flatten := by
  constructor
  · intro h
    induction h with
    | nil => exact ⟨[], .nil, rfl⟩
    | cons hlast hparent _ _ ih =>
      obtain ⟨parts, hparts, rfl⟩ := ih
      exact ⟨_ :: parts, .cons ⟨_, _, hlast, ⟨_, hparent, rfl⟩, rfl⟩ hparts, rfl⟩
  · rintro ⟨parts, hparts, rfl⟩
    induction hparts with
    | nil => exact .nil
    | cons hpart _ ih =>
      obtain ⟨parent, _, hlast, ⟨inherited, hparent, rfl⟩, rfl⟩ := hpart
      exact .cons hlast hparent ih

theorem resolves_iff : Resolves prompts p messages ↔
    ∃ parts, List.Forall₂ (PassesOn prompts (Resolves prompts)) p.extend parts ∧
      messages = parts.flatten ++ p.messages := by
  constructor
  · rintro ⟨inherited, h, rfl⟩
    obtain ⟨parts, hparts, rfl⟩ := inherits_iff.1 h
    exact ⟨parts, hparts, rfl⟩
  · rintro ⟨parts, hparts, rfl⟩
    exact ⟨_, inherits_iff.2 ⟨parts, hparts, rfl⟩, rfl⟩

theorem Inherits.det (h : Inherits prompts entries inherited)
    (h' : Inherits prompts entries inherited') : inherited = inherited' := by
  induction h generalizing inherited' with
  | nil =>
    cases h'
    rfl
  | cons hlast _ _ ih ih' =>
    cases h' with
    | cons hlast' hparent' hrest' =>
      cases hlast.symm.trans hlast'
      rw [ih hparent', ih' hrest']

/-- A prompt has one list of messages. -/
theorem Resolves.det (h : Resolves prompts p messages) (h' : Resolves prompts p messages') :
    messages = messages' := by
  obtain ⟨_, h, rfl⟩ := h
  obtain ⟨_, h', rfl⟩ := h'
  rw [h.det h']

/-! ## The resolution -/

/-- The resolution goes on from a free id, which is not free any more below it. -/
theorem resolvedMessages_eq_ok : resolvedMessages prompts free p = .ok messages ↔
    p.id ∈ free ∧ ∃ parts, List.Forall₂ (fun e part => Text.isBlankText e.id = false ∧
      PassesOn prompts (fun parent messages =>
        resolvedMessages prompts (without p.id free) parent = .ok messages ∧
          ¬ parent.Lacks messages) e part) p.extend parts ∧
      messages = parts.flatten ++ p.messages := by
  rw [resolvedMessages]
  split
  next hfree =>
    rw [except_bind_eq_ok, and_iff_right hfree]
    refine exists_congr fun parts => and_congr (except_mapM_zipIdx_eq_ok fun e index part => ?_)
      ⟨fun h => (Except.ok.inj h).symm, fun h => h ▸ rfl⟩
    dsimp only
    split
    next hblank =>
      rw [hblank]
      exact ⟨nofun, nofun⟩
    next hblank =>
      rw [Bool.not_eq_true] at hblank
      rw [and_iff_right hblank]
      unfold PassesOn Lacks
      cases lastOf? prompts e.id with
      | none => exact ⟨nofun, nofun⟩
      | some parent =>
        dsimp only
        rw [except_bind_eq_ok]
        constructor
        · rintro ⟨messages, hmessages, h⟩
          split at h
          · cases h
          · next hlacks =>
            cases h
            exact ⟨parent, messages, rfl, ⟨hmessages, by simpa using hlacks⟩, rfl⟩
        · rintro ⟨_, messages, e, ⟨hmessages, hlacks⟩, rfl⟩
          cases e
          exact ⟨messages, hmessages, if_neg (by simpa using hlacks)⟩
  next hfree => exact ⟨nofun, fun h => absurd h.1 hfree⟩

theorem id_mem_of_resolvedMessages (h : resolvedMessages prompts free p = .ok messages) :
    p.id ∈ free :=
  (resolvedMessages_eq_ok.1 h).1

/-- What the resolution comes to is what the prompt has. -/
theorem resolves_of_resolvedMessages (h : resolvedMessages prompts free p = .ok messages) :
    Resolves prompts p messages := by
  induction free, p using resolvedMessages.induct generalizing messages with
  | case1 free p _ ih =>
    obtain ⟨-, parts, hparts, rfl⟩ := resolvedMessages_eq_ok.1 h
    refine resolves_iff.2 ⟨parts, hparts.imp ?_, rfl⟩
    rintro e part ⟨-, parent, own, hlast, ⟨hown, -⟩, rfl⟩
    exact ⟨parent, own, hlast, ih parent hown, rfl⟩
  | case2 free p hfree => exact absurd (id_mem_of_resolvedMessages h) hfree

/-! ## A result says that the inheritance works out -/

theorem entry_of_resolvedMessages (h : resolvedMessages prompts free p = .ok messages)
    {e : PromptExtension} (he : e ∈ p.extend) : Text.isBlankText e.id = false ∧
      ∃ q messages, lastOf? prompts e.id = some q ∧
        resolvedMessages prompts (without p.id free) q = .ok messages ∧ ¬ q.Lacks messages := by
  obtain ⟨-, parts, hparts, -⟩ := resolvedMessages_eq_ok.1 h
  obtain ⟨part, hblank, q, messages, hlast, hq, -⟩ := exists_of_forall₂ hparts he
  exact ⟨hblank, q, messages, hlast, hq⟩

/-- Below a prompt that comes to a result every prompt does, without the id of that prompt. -/
theorem resolvedMessages_of_extends (h : resolvedMessages prompts free p = .ok messages)
    (hq : Extends prompts p q) : ∃ messages,
      resolvedMessages prompts (without p.id free) q = .ok messages ∧ ¬ q.Lacks messages := by
  obtain ⟨e, he, hlast⟩ := hq
  obtain ⟨-, q', messages, hlast', hq⟩ := entry_of_resolvedMessages h he
  cases hlast.symm.trans hlast'
  exact ⟨messages, hq⟩

theorem resolvedMessages_of_reaches (h : resolvedMessages prompts free p = .ok messages)
    (hq : Reaches prompts p q) : ∃ free' messages, free' ⊆ free ∧
      resolvedMessages prompts free' q = .ok messages := by
  induction hq with
  | refl => exact ⟨free, messages, List.Subset.refl _, h⟩
  | tail _ hstep ih =>
    obtain ⟨free', _, hsub, hr⟩ := ih
    obtain ⟨messages, hq, -⟩ := resolvedMessages_of_extends hr hstep
    exact ⟨_, messages, List.Subset.trans List.filter_sublist.subset hsub, hq⟩

theorem not_reaches_of_resolvedMessages (h : resolvedMessages prompts free p = .ok messages) :
    ¬ Relation.TransGen (Extends prompts) p p := by
  intro hcycle
  obtain ⟨q, hpq, hqp⟩ := Relation.TransGen.head'_iff.1 hcycle
  obtain ⟨_, hq, -⟩ := resolvedMessages_of_extends h hpq
  obtain ⟨free', _, hsub, hp⟩ := resolvedMessages_of_reaches hq hqp
  have hmem := (List.mem_filter.1 (hsub (id_mem_of_resolvedMessages hp))).2
  exact absurd rfl (bne_iff_ne.1 hmem)

theorem worksOut_of_resolvedMessages (h : resolvedMessages prompts free p = .ok messages)
    (hkind : p.kind = .prompt) : p.WorksOut prompts where
  named q hq e he := by
    obtain ⟨_, _, -, hq⟩ := resolvedMessages_of_reaches h hq
    exact (entry_of_resolvedMessages hq he).1
  declared q hq e he := by
    obtain ⟨_, _, -, hq⟩ := resolvedMessages_of_reaches h hq
    obtain ⟨-, r, -, hlast, -⟩ := entry_of_resolvedMessages hq he
    exact exists_lastOf?.1 ⟨r, hlast⟩
  acyclic q hq := by
    obtain ⟨_, _, -, hq⟩ := resolvedMessages_of_reaches h hq
    exact not_reaches_of_resolvedMessages hq
  filled q hq htemplate hnone := by
    rcases Relation.ReflTransGen.cases_tail hq with rfl | ⟨r, hr, hrq⟩
    · rw [hkind] at htemplate
      cases htemplate
    · obtain ⟨_, _, -, hr⟩ := resolvedMessages_of_reaches h hr
      obtain ⟨_, hq, hlacks⟩ := resolvedMessages_of_extends hr hrq
      exact hlacks ⟨htemplate, (resolves_of_resolvedMessages hq).det hnone⟩

/-! ## Inheritance that works out has a result -/

theorem exists_resolvedMessages_of_entries (hp : p.id ∈ free)
    (h : ∀ e ∈ p.extend, Text.isBlankText e.id = false ∧
      ∃ q messages, lastOf? prompts e.id = some q ∧
        resolvedMessages prompts (without p.id free) q = .ok messages ∧ ¬ q.Lacks messages) :
    ∃ messages, resolvedMessages prompts free p = .ok messages := by
  have hparts : ∀ e ∈ p.extend, ∃ part, Text.isBlankText e.id = false ∧
      PassesOn prompts (fun parent messages =>
        resolvedMessages prompts (without p.id free) parent = .ok messages ∧
          ¬ parent.Lacks messages) e part := fun e he => by
    obtain ⟨hblank, q, messages, hlast, hq⟩ := h e he
    exact ⟨_, hblank, q, messages, hlast, hq, rfl⟩
  obtain ⟨parts, hparts⟩ := exists_forall₂ hparts
  exact ⟨_, resolvedMessages_eq_ok.2 ⟨hp, parts, hparts, rfl⟩⟩

/-- The induction is on the ids that are free. What is reached below a prompt never has the id of
that prompt, as it would close a cycle. -/
theorem exists_resolvedMessages (h : p.WorksOut prompts) (hlast : lastOf? prompts p.id = some p)
    (hfree : ∀ q, Reaches prompts p q → q.id ∈ free) :
    ∃ messages, resolvedMessages prompts free p = .ok messages := by
  induction free, p using resolvedMessages.induct with
  | case1 free p hp ih =>
    have hchild : ∀ q, Extends prompts p q →
        ∃ messages, resolvedMessages prompts (without p.id free) q = .ok messages := by
      intro q hq
      refine ih q (h.of_extends hq) hq.lastOf? fun r hr => List.mem_filter.2 ⟨?_, ?_⟩
      · exact hfree r (.head hq hr)
      · refine bne_iff_ne.2 fun hid => h.acyclic p .refl ?_
        have hrp : r = p := by
          have hr := hr.lastOf? hq.lastOf?
          rw [hid] at hr
          exact Option.some.inj (hr.symm.trans hlast)
        exact Relation.TransGen.head'_iff.2 ⟨q, hq, hrp ▸ hr⟩
    refine exists_resolvedMessages_of_entries hp fun e he => ⟨h.named p .refl e he, ?_⟩
    obtain ⟨q, hq⟩ := exists_lastOf?.2 (h.declared p .refl e he)
    obtain ⟨messages, hmessages⟩ := hchild q ⟨e, he, hq⟩
    refine ⟨q, messages, hq, hmessages, fun ⟨htemplate, hnone⟩ => ?_⟩
    exact h.filled q (.single ⟨e, he, hq⟩) htemplate
      (hnone ▸ resolves_of_resolvedMessages hmessages)
  | case2 free p hp => exact absurd (hfree p .refl) hp

/-- With all ids free, the resolution of a prompt comes to a result exactly when the inheritance
works out, and then to what the prompt has. -/
theorem resolvedMessages_eq_ok_iff (hlast : lastOf? prompts p.id = some p)
    (hkind : p.kind = .prompt) :
    resolvedMessages prompts (prompts.map (·.id)) p = .ok messages ↔
      p.WorksOut prompts ∧ Resolves prompts p messages := by
  constructor
  · exact fun h => ⟨worksOut_of_resolvedMessages h hkind, resolves_of_resolvedMessages h⟩
  · rintro ⟨h, hmessages⟩
    obtain ⟨messages', h'⟩ := exists_resolvedMessages h hlast fun q hq =>
      List.mem_map_of_mem (lastOf?_eq_some (hq.lastOf? hlast)).1
    rw [h', hmessages.det (resolves_of_resolvedMessages h')]

end Prompt

end ContextCompiler
