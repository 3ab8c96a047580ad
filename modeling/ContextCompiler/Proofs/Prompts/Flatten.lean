import Mathlib.Data.List.Dedup
import ContextCompiler.Proofs.Prompts.Inheritance
import ContextCompiler.Proofs.Registry.Precedence

/-!
Which prompts are given out.

Of every id the last declaration counts, at its place (`lastDeclarations_eq`). If it is a prompt,
it is given out on its own or a warning tells why not; a template is neither. A prompt is given out
exactly when its inheritance works out and its messages are valid (`flatMessages_eq_ok_iff`), so
what is given out stays as it is when it is gone through again.
-/

namespace ContextCompiler

/-- A message that may be given out: it is said by the user or the assistant, and says something. -/
def Message.IsValid (m : Message) : Prop :=
  (m.role = "user" ∨ m.role = "assistant") ∧ Text.isBlankText m.content = false

namespace Prompt

variable {prompts : List Prompt} {p q : Prompt} {messages : List Message}

/-! ## Last declarations -/

theorem lastOf?_cons (rest : List Prompt) (id : String) :
    lastOf? (p :: rest) id = (lastOf? rest id).or (if p.id = id then some p else none) := by
  simp only [lastOf?, List.reverse_cons, List.find?_append, List.find?_singleton, beq_iff_eq]

theorem map_id_lastDeclarations (prompts : List Prompt) :
    (lastDeclarations prompts).map (·.id) = (prompts.map (·.id)).dedup := by
  induction prompts with
  | nil => rfl
  | cons p rest ih =>
    unfold lastDeclarations
    split
    · next h =>
      obtain ⟨q, hq, hid⟩ := List.any_eq_true.1 h
      have hmem : p.id ∈ rest.map (·.id) := List.mem_map.2 ⟨q, hq, beq_iff_eq.1 hid⟩
      rw [List.map_cons, List.dedup_cons_of_mem hmem, ih]
    · next h =>
      have hmem : p.id ∉ rest.map (·.id) := fun hmem => h <| by
        obtain ⟨q, hq, hid⟩ := List.mem_map.1 hmem
        exact List.any_eq_true.2 ⟨q, hq, beq_iff_eq.2 hid⟩
      rw [List.map_cons, List.map_cons, List.dedup_cons_of_notMem hmem, ih]

theorem lastOf?_of_mem_lastDeclarations (h : p ∈ lastDeclarations prompts) :
    lastOf? prompts p.id = some p := by
  induction prompts with
  | nil => exact absurd h List.not_mem_nil
  | cons q rest ih =>
    rw [lastOf?_cons]
    unfold lastDeclarations at h
    split at h
    · rw [ih h, Option.some_or]
    · next hnew =>
      rcases List.mem_cons.1 h with rfl | h
      · have hnone : lastOf? rest p.id = none := by
          refine Option.eq_none_iff_forall_ne_some.2 fun q hq => hnew ?_
          obtain ⟨hmem, hid⟩ := lastOf?_eq_some hq
          exact List.any_eq_true.2 ⟨q, hmem, beq_iff_eq.2 hid⟩
        rw [hnone, if_pos rfl, Option.none_or]
      · rw [ih h, Option.some_or]

/-- The last declarations stand in the order of the last places of their ids. -/
theorem lastDeclarations_eq (prompts : List Prompt) :
    lastDeclarations prompts = (prompts.map (·.id)).dedup.filterMap (lastOf? prompts) := by
  rw [← map_id_lastDeclarations, List.filterMap_map]
  refine (List.filterMap_some.symm.trans (List.filterMap_congr fun p hp => ?_))
  exact (lastOf?_of_mem_lastDeclarations hp).symm

theorem mem_lastDeclarations : p ∈ lastDeclarations prompts ↔ lastOf? prompts p.id = some p := by
  refine ⟨lastOf?_of_mem_lastDeclarations, fun h => ?_⟩
  rw [lastDeclarations_eq]
  refine List.mem_filterMap.2 ⟨p.id, List.mem_dedup.2 ?_, h⟩
  exact List.mem_map_of_mem (lastOf?_eq_some h).1

theorem lastDeclarations_eq_lastOfEach (prompts : List Prompt) :
    lastDeclarations prompts = lastOfEach Prompt.id prompts := by
  induction prompts with
  | nil => rfl
  | cons p rest ih => rw [lastDeclarations, lastOfEach, ih]

theorem nodup_ids_lastDeclarations (prompts : List Prompt) :
    ((lastDeclarations prompts).map (·.id)).Nodup := by
  rw [map_id_lastDeclarations]
  exact List.nodup_dedup _

theorem lastDeclarations_eq_self (hnodup : (prompts.map (·.id)).Nodup) :
    lastDeclarations prompts = prompts :=
  (lastDeclarations_eq_lastOfEach prompts).trans (lastOfEach_eq_self Prompt.id hnodup)

/-! ## One prompt -/

theorem checkMessages_eq_ok {n : Nat} :
    checkMessages (messages.zipIdx n) = .ok () ↔ ∀ m ∈ messages, m.IsValid := by
  induction messages generalizing n with
  | nil => exact ⟨fun _ _ h => absurd h List.not_mem_nil, fun _ => rfl⟩
  | cons m rest ih =>
    rw [List.zipIdx_cons, checkMessages, List.forall_mem_cons, ← ih (n := n + 1)]
    unfold Message.IsValid
    split
    · next hrole =>
      refine ⟨nofun, fun h => ?_⟩
      simp only [Bool.and_eq_true, bne_iff_ne] at hrole
      exact absurd h.1.1 (not_or.2 hrole)
    · next hrole =>
      simp only [Bool.and_eq_true, bne_iff_ne, not_and_or, not_not] at hrole
      split
      · next hblank =>
        refine ⟨nofun, fun h => ?_⟩
        rw [hblank] at h
        exact nomatch h.1.2
      · next hblank =>
        rw [Bool.not_eq_true] at hblank
        exact ⟨fun h => ⟨⟨hrole, hblank⟩, h⟩, fun h => h.2⟩

/-- A prompt can be given out when it has an id, and messages all of which are valid. -/
theorem flatMessages_eq_ok : flatMessages prompts p = .ok messages ↔
    resolvedMessages prompts (prompts.map (·.id)) p = .ok messages ∧
      Text.isBlankText p.id = false ∧ messages ≠ [] ∧ ∀ m ∈ messages, m.IsValid := by
  unfold flatMessages
  rw [except_bind_eq_ok]
  simp only [except_mapError_eq_ok]
  constructor
  · rintro ⟨messages', hmessages, h⟩
    split at h
    · cases h
    · next hid =>
      split at h
      · cases h
      · next hne =>
        obtain ⟨⟨⟩, hcheck, h⟩ := except_bind_eq_ok.1 h
        cases h
        refine ⟨hmessages, by simpa using hid, by simpa using hne, checkMessages_eq_ok.1 hcheck⟩
  · rintro ⟨hmessages, hid, hne, hvalid⟩
    refine ⟨messages, hmessages, ?_⟩
    rw [if_neg (by simpa using hid), if_neg (by simpa using hne)]
    exact except_bind_eq_ok.2 ⟨(), checkMessages_eq_ok.2 hvalid, rfl⟩

theorem flatMessages_eq_ok_iff (hlast : lastOf? prompts p.id = some p) (hkind : p.kind = .prompt) :
    flatMessages prompts p = .ok messages ↔
      p.WorksOut prompts ∧ Resolves prompts p messages ∧ Text.isBlankText p.id = false ∧
        messages ≠ [] ∧ ∀ m ∈ messages, m.IsValid := by
  rw [flatMessages_eq_ok, resolvedMessages_eq_ok_iff hlast hkind, and_assoc]

theorem flattenOne_eq_ok : flattenOne prompts p = .ok q ↔
    ∃ messages, flatMessages prompts p = .ok messages ∧
      q = { p with messages := messages, extend := [] } := by
  unfold flattenOne
  cases flatMessages prompts p with
  | error e => exact ⟨nofun, fun ⟨_, h, _⟩ => nomatch h⟩
  | ok messages =>
    refine ⟨fun h => ⟨messages, rfl, (Except.ok.inj h).symm⟩, fun ⟨_, h, e⟩ => ?_⟩
    cases h
    rw [e]

theorem scope_of_flattenOne {w : Warning} (h : flattenOne prompts p = .error w) :
    w.scope = p.warningScope := by
  unfold flattenOne at h
  split at h
  · cases h
  · cases h
    rfl

/-! ## All prompts -/

/-- The last declarations that are prompts, in the order of the last places of their ids. -/
def wanted (prompts : List Prompt) : List Prompt :=
  ((prompts.map (·.id)).dedup.filterMap (lastOf? prompts)).filter (·.kind = .prompt)

theorem filter_lastDeclarations (prompts : List Prompt) :
    (lastDeclarations prompts).filter (·.kind = .prompt) = wanted prompts := by
  rw [wanted, ← lastDeclarations_eq]

theorem mem_wanted : p ∈ wanted prompts ↔ lastOf? prompts p.id = some p ∧ p.kind = .prompt := by
  rw [← filter_lastDeclarations, List.mem_filter, mem_lastDeclarations, decide_eq_true_iff]

theorem nodup_ids_wanted (prompts : List Prompt) : ((wanted prompts).map (·.id)).Nodup := by
  rw [← filter_lastDeclarations]
  exact (nodup_ids_lastDeclarations prompts).sublist (List.filter_sublist.map _)

theorem flatten_fst (prompts : List Prompt) : (flatten prompts).1 =
    (wanted prompts).filterMap fun p => (flattenOne prompts p).toOption := by
  simp only [flatten, filter_lastDeclarations, List.filterMap_map]
  refine List.filterMap_congr fun p _ => ?_
  rw [Function.comp_apply]
  cases flattenOne prompts p <;> rfl

theorem mem_flatten : q ∈ (flatten prompts).1 ↔
    ∃ p, lastOf? prompts p.id = some p ∧ p.kind = .prompt ∧ flattenOne prompts p = .ok q := by
  rw [flatten_fst]
  simp only [List.mem_filterMap, mem_wanted, and_assoc]
  refine exists_congr fun p => and_congr_right fun _ => and_congr_right fun _ => ?_
  cases flattenOne prompts p with
  | error w => exact ⟨nofun, nofun⟩
  | ok q' => simp only [Except.toOption, Option.some.injEq, Except.ok.injEq]

/-- Each prompt that is wanted is given out, or a warning concerns it. -/
theorem flatten_split (prompts : List Prompt) : ∃ emits : Prompt → Bool,
    (flatten prompts).1.map (·.id) = ((wanted prompts).filter emits).map (·.id) ∧
      (flatten prompts).2.map (·.scope) =
        ((wanted prompts).filter fun p => !emits p).map warningScope := by
  refine ⟨fun p => (flattenOne prompts p).isOk, ?_, ?_⟩
  · rw [flatten_fst, List.map_filterMap, ← List.filterMap_eq_map, List.filterMap_filter]
    refine List.filterMap_congr fun p _ => ?_
    cases h : flattenOne prompts p with
    | error w => rfl
    | ok q =>
      obtain ⟨_, -, rfl⟩ := flattenOne_eq_ok.1 h
      rfl
  · simp only [flatten, filter_lastDeclarations]
    rw [List.filterMap_map, List.map_filterMap, ← List.filterMap_eq_map, List.filterMap_filter]
    refine List.filterMap_congr fun p _ => ?_
    rw [Function.comp_apply]
    cases h : flattenOne prompts p with
    | error w => exact congrArg some (scope_of_flattenOne h)
    | ok q => rfl

/-- A prompt as it is given out: it stands on its own, and nothing is wrong with it. -/
structure IsFlat (p : Prompt) : Prop where
  kind : p.kind = .prompt
  extend : p.extend = []
  named : Text.isBlankText p.id = false
  nonempty : p.messages ≠ []
  valid : ∀ m ∈ p.messages, m.IsValid

/-- What is given out stands on its own, and is a last declaration but for its messages and
entries. -/
theorem isFlat_of_mem_flatten (h : q ∈ (flatten prompts).1) : q.IsFlat ∧
    ∃ p, lastOf? prompts q.id = some p ∧ q = { p with messages := q.messages, extend := [] } := by
  obtain ⟨p, hlast, hkind, hone⟩ := mem_flatten.1 h
  obtain ⟨messages, hmessages, rfl⟩ := flattenOne_eq_ok.1 hone
  obtain ⟨-, hid, hne, hvalid⟩ := flatMessages_eq_ok.1 hmessages
  exact ⟨⟨hkind, rfl, hid, hne, hvalid⟩, p, hlast, rfl⟩

theorem nodup_ids_flatten (prompts : List Prompt) :
    ((flatten prompts).1.map (·.id)).Nodup := by
  obtain ⟨emits, heq, -⟩ := flatten_split prompts
  rw [heq]
  exact (nodup_ids_wanted prompts).sublist (List.filter_sublist.map _)

theorem flattenOne_of_isFlat (h : p.IsFlat) (hp : p ∈ prompts) : flattenOne prompts p = .ok p := by
  have hresolved : resolvedMessages prompts (prompts.map (·.id)) p = .ok p.messages :=
    resolvedMessages_eq_ok.2 ⟨List.mem_map_of_mem hp, [], by rw [h.extend]; exact .nil, rfl⟩
  refine flattenOne_eq_ok.2 ⟨p.messages, flatMessages_eq_ok.2 ?_, ?_⟩
  · exact ⟨hresolved, h.named, h.nonempty, h.valid⟩
  · rw [← h.extend]

/-- Prompts that stand on their own, each with an id of its own, are given out as they are. -/
theorem flatten_eq_self (hflat : ∀ p ∈ prompts, p.IsFlat)
    (hnodup : (prompts.map (·.id)).Nodup) : flatten prompts = (prompts, []) := by
  have hkind : prompts.filter (·.kind = .prompt) = prompts :=
    List.filter_eq_self.2 fun p hp => decide_eq_true (hflat p hp).kind
  have hone : prompts.map (flattenOne prompts) = prompts.map .ok :=
    List.map_congr_left fun p hp => flattenOne_of_isFlat (hflat p hp) hp
  unfold flatten
  rw [lastDeclarations_eq_self hnodup, hkind, hone]
  simp

/-- A prompt is given out exactly when its inheritance works out, it has an id, and the messages
that it has are there and valid. What is given out has, for each entry in order, the messages of
the prompt it leads to with its arguments filled in, and then the own messages. -/
theorem flatten_emits_iff (hlast : lastOf? prompts p.id = some p) (hkind : p.kind = .prompt) :
    ((∃ q ∈ (flatten prompts).1, q.id = p.id) ↔
      p.WorksOut prompts ∧ Text.isBlankText p.id = false ∧
        ∃ messages, Resolves prompts p messages ∧ messages ≠ [] ∧ ∀ m ∈ messages, m.IsValid) ∧
    ∀ q ∈ (flatten prompts).1, q.id = p.id → Resolves prompts p q.messages ∧
      ∃ parts, List.Forall₂ (PassesOn prompts (Resolves prompts)) p.extend parts ∧
        q.messages = parts.flatten ++ p.messages := by
  have hmem : ∀ q ∈ (flatten prompts).1, q.id = p.id →
      flatMessages prompts p = .ok q.messages := by
    intro q hq hid
    obtain ⟨p', hlast', -, hone⟩ := mem_flatten.1 hq
    obtain ⟨messages, hmessages, rfl⟩ := flattenOne_eq_ok.1 hone
    have hid : p'.id = p.id := hid
    rw [hid] at hlast'
    cases hlast.symm.trans hlast'
    exact hmessages
  refine ⟨⟨?_, ?_⟩, fun q hq hid => ?_⟩
  · rintro ⟨q, hq, hid⟩
    obtain ⟨hworks, hresolves, hnamed, hvalid⟩ :=
      (flatMessages_eq_ok_iff hlast hkind).1 (hmem q hq hid)
    exact ⟨hworks, hnamed, q.messages, hresolves, hvalid⟩
  · rintro ⟨hworks, hnamed, messages, hresolves, hvalid⟩
    have hflat := (flatMessages_eq_ok_iff hlast hkind).2 ⟨hworks, hresolves, hnamed, hvalid⟩
    exact ⟨_, mem_flatten.2 ⟨p, hlast, hkind, flattenOne_eq_ok.2 ⟨messages, hflat, rfl⟩⟩, rfl⟩
  · obtain ⟨-, hresolves, -⟩ := (flatMessages_eq_ok_iff hlast hkind).1 (hmem q hq hid)
    exact ⟨hresolves, resolves_iff.1 hresolves⟩

/-- A prompt that extends two templates, which extend one and the same template. -/
def leaf : Prompt :=
  { blank with id := "leaf", extend := [⟨"a", .ofList [("x", "1")]⟩, ⟨"b", .ofList [("x", "2")]⟩] }

def sharedBase : List Prompt :=
  [{ blank with id := "base", kind := .template, messages := [⟨"user", "{{x}}"⟩] },
    { blank with id := "a", kind := .template, extend := [⟨"base", .empty⟩] },
    { blank with id := "b", kind := .template, extend := [⟨"base", .empty⟩] },
    leaf]

theorem sharedBase_emits_iff :
    lastOf? sharedBase "leaf" = some leaf ∧ leaf.kind = .prompt ∧
      ((∃ q ∈ (flatten sharedBase).1, q.id = "leaf") ↔
        leaf.WorksOut sharedBase ∧ Text.isBlankText "leaf" = false ∧
          ∃ messages, Resolves sharedBase leaf messages ∧ messages ≠ [] ∧
            ∀ m ∈ messages, m.IsValid) ∧
      ∀ q ∈ (flatten sharedBase).1, q.id = "leaf" → Resolves sharedBase leaf q.messages ∧
        ∃ parts, List.Forall₂ (PassesOn sharedBase (Resolves sharedBase)) leaf.extend parts ∧
          q.messages = parts.flatten ++ leaf.messages := by
  have hlast : lastOf? sharedBase leaf.id = some leaf := by rfl
  exact ⟨hlast, rfl, flatten_emits_iff hlast rfl⟩

example : (flatten sharedBase).1.map (·.messages) = [[⟨"user", "1"⟩, ⟨"user", "2"⟩]] := by
  cbv

/-- Each id whose last declaration is a prompt comes to a prompt that is given out or to a warning,
in the order of the last places, and no other id does. What is given out stands on its own, and is
given out once more without a warning. -/
theorem flatten_partition (prompts : List Prompt) :
    (∃ emits : Prompt → Bool,
      (flatten prompts).1.map (·.id) = ((wanted prompts).filter emits).map (·.id) ∧
        (flatten prompts).2.map (·.scope) =
          ((wanted prompts).filter fun p => !emits p).map warningScope) ∧
      ((flatten prompts).1.map (·.id)).Nodup ∧
      (∀ q ∈ (flatten prompts).1, q.IsFlat ∧ ∃ p, lastOf? prompts q.id = some p ∧
        q = { p with messages := q.messages, extend := [] }) ∧
      flatten (flatten prompts).1 = ((flatten prompts).1, []) := by
  refine ⟨flatten_split prompts, nodup_ids_flatten prompts, fun q => isFlat_of_mem_flatten, ?_⟩
  exact flatten_eq_self (fun q hq => (isFlat_of_mem_flatten hq).1) (nodup_ids_flatten prompts)

end Prompt

end ContextCompiler
