import ContextCompiler.Proofs.Prompts.Flatten

/-!
Prompts that are declared again, and prompts in another order.

What a prompt comes to depends on the last declarations alone (`flattenOne_congr`). Two lists with
the same last declarations therefore differ at most in the order of what is given out: a registry,
which replaces a prompt when its id is declared again, gives out what the whole list does; and
where no id is declared twice, each prompt keeps what it comes to in every order of the list.
-/

namespace ContextCompiler

namespace Prompt

variable {prompts prompts' : List Prompt} {free free' : List String} {p : Prompt} {id : String}

/-! ## The last declarations are all that counts -/

/-- The resolution looks at last declarations only, and asks of an id only whether it is free. -/
theorem resolvedMessages_congr (hlast : ∀ id, lastOf? prompts id = lastOf? prompts' id)
    (hfree : ∀ id, id ∈ free ↔ id ∈ free') :
    resolvedMessages prompts free p = resolvedMessages prompts' free' p := by
  induction free, p using resolvedMessages.induct generalizing free' with
  | case1 free p hp ih =>
    have hbelow : ∀ parent, resolvedMessages prompts (without p.id free) parent =
        resolvedMessages prompts' (without p.id free') parent :=
      fun parent => ih parent fun id => by simp only [without, List.mem_filter, hfree]
    rw [resolvedMessages, resolvedMessages, dif_pos hp, dif_pos ((hfree p.id).1 hp)]
    simp only [hlast, hbelow]
  | case2 free p hp =>
    rw [resolvedMessages, resolvedMessages, dif_neg hp, dif_neg (mt (hfree p.id).2 hp)]

theorem mem_ids_iff : id ∈ prompts.map (·.id) ↔ ∃ p, lastOf? prompts id = some p := by
  rw [exists_lastOf?, List.mem_map]

theorem flattenOne_congr (h : ∀ id, lastOf? prompts id = lastOf? prompts' id) (p : Prompt) :
    flattenOne prompts p = flattenOne prompts' p := by
  have hfree : ∀ id, id ∈ prompts.map (·.id) ↔ id ∈ prompts'.map (·.id) := fun id => by
    rw [mem_ids_iff, mem_ids_iff, h]
  rw [flattenOne, flattenOne, flatMessages, flatMessages, resolvedMessages_congr h hfree]

/-- Where no id is declared twice, every declaration is the last one. -/
theorem lastOf?_eq_some_iff (hnodup : (prompts.map (·.id)).Nodup) :
    lastOf? prompts id = some p ↔ p ∈ prompts ∧ p.id = id := by
  refine ⟨lastOf?_eq_some, ?_⟩
  rintro ⟨hp, rfl⟩
  obtain ⟨q, hq⟩ := exists_lastOf?.2 ⟨p, hp, rfl⟩
  obtain ⟨hmem, hid⟩ := lastOf?_eq_some hq
  rw [hq, List.inj_on_of_nodup_map hnodup hmem hp hid]

theorem lastOf?_lastDeclarations (prompts : List Prompt) (id : String) :
    lastOf? (lastDeclarations prompts) id = lastOf? prompts id := by
  refine Option.ext fun p => ?_
  rw [lastOf?_eq_some_iff (nodup_ids_lastDeclarations prompts), mem_lastDeclarations]
  constructor
  · rintro ⟨hp, rfl⟩
    exact hp
  · intro hp
    obtain ⟨-, rfl⟩ := lastOf?_eq_some hp
    exact ⟨hp, rfl⟩

theorem lastOf?_perm (hnodup : (prompts.map (·.id)).Nodup) (h : prompts'.Perm prompts)
    (id : String) : lastOf? prompts' id = lastOf? prompts id := by
  have hnodup' : (prompts'.map (·.id)).Nodup := (h.map _).nodup_iff.2 hnodup
  refine Option.ext fun p => ?_
  rw [lastOf?_eq_some_iff hnodup, lastOf?_eq_some_iff hnodup', h.mem_iff]

/-! ## What each prompt comes to -/

/-- The prompt that a declaration is given out as, if it is one to be given out. -/
def emission (prompts : List Prompt) (p : Prompt) : Option Prompt :=
  if p.kind = .prompt then (flattenOne prompts p).toOption else none

/-- The warning that a declaration comes to, if it is dropped. -/
def complaint (prompts : List Prompt) (p : Prompt) : Option Warning :=
  if p.kind = .prompt then
    match flattenOne prompts p with
    | .error w => some w
    | .ok _ => none
  else none

theorem flatten_eq (prompts : List Prompt) :
    flatten prompts = ((lastDeclarations prompts).filterMap (emission prompts),
      (lastDeclarations prompts).filterMap (complaint prompts)) := by
  rw [flatten]
  simp only [List.filterMap_map, List.filterMap_filter, decide_eq_true_eq]
  refine Prod.ext ?_ ?_
  · refine List.filterMap_congr fun p _ => ?_
    cases hp : flattenOne prompts p <;> simp [emission, hp, Except.toOption]
  · refine List.filterMap_congr fun p _ => ?_
    cases hp : flattenOne prompts p <;> simp [complaint, hp]

theorem emission_congr (h : ∀ id, lastOf? prompts id = lastOf? prompts' id) :
    emission prompts = emission prompts' :=
  funext fun p => by rw [emission, emission, flattenOne_congr h]

theorem complaint_congr (h : ∀ id, lastOf? prompts id = lastOf? prompts' id) :
    complaint prompts = complaint prompts' :=
  funext fun p => by rw [complaint, complaint, flattenOne_congr h]

/-- Declarations that a later one replaces may be left out beforehand. -/
theorem flatten_lastDeclarations (prompts : List Prompt) :
    flatten (lastDeclarations prompts) = flatten prompts := by
  rw [flatten_eq, flatten_eq, lastDeclarations_eq_self (nodup_ids_lastDeclarations prompts),
    emission_congr (lastOf?_lastDeclarations prompts),
    complaint_congr (lastOf?_lastDeclarations prompts)]

/-- In another order every prompt comes to what it came to before. -/
theorem flatten_of_perm (hnodup : (prompts.map (·.id)).Nodup) (h : prompts'.Perm prompts) :
    flatten prompts' =
      (prompts'.filterMap (emission prompts), prompts'.filterMap (complaint prompts)) := by
  have hnodup' : (prompts'.map (·.id)).Nodup := (h.map _).nodup_iff.2 hnodup
  rw [flatten_eq, lastDeclarations_eq_self hnodup', emission_congr (lastOf?_perm hnodup h),
    complaint_congr (lastOf?_perm hnodup h)]

/-- The registry of a configuration gives out the same prompts, with the same warnings, as the list
that the configuration declares, whatever is declared there again. Where no id is declared twice,
another order of the list puts what is given out and the warnings in that order, and changes none
of them. -/
theorem flatten_redeclared (raw : Declarations) (configId baseDir : String) :
    flatten (Registry.ofDeclarations raw configId baseDir).prompts = flatten raw.prompts ∧
      ((raw.prompts.map (·.id)).Nodup → ∀ reordered, reordered.Perm raw.prompts →
        flatten reordered = (reordered.filterMap (emission raw.prompts),
          reordered.filterMap (complaint raw.prompts)) ∧
        (flatten reordered).1.Perm (flatten raw.prompts).1 ∧
        (flatten reordered).2.Perm (flatten raw.prompts).2) := by
  constructor
  · have hprompts : (Registry.ofDeclarations raw configId baseDir).prompts =
        lastDeclarations raw.prompts :=
      (upsertAll_nil Prompt.id raw.prompts).trans (lastDeclarations_eq_lastOfEach _).symm
    rw [hprompts, flatten_lastDeclarations]
  · intro hnodup reordered hperm
    have hreordered := flatten_of_perm hnodup hperm
    have hself := flatten_of_perm hnodup (List.Perm.refl raw.prompts)
    refine ⟨hreordered, ?_, ?_⟩
    · rw [hreordered, hself]
      exact hperm.filterMap _
    · rw [hreordered, hself]
      exact hperm.filterMap _

/-- A configuration that declares a template, the two templates that extend it, and a prompt. -/
def sharedDeclarations : Declarations := { Declarations.empty with prompts := sharedBase }

theorem sharedDeclarations_redeclared :
    (sharedBase.map (·.id)).Nodup ∧ sharedBase.reverse.Perm sharedBase ∧
      flatten (Registry.ofDeclarations sharedDeclarations "c" "/").prompts = flatten sharedBase ∧
      flatten sharedBase.reverse = (sharedBase.reverse.filterMap (emission sharedBase),
        sharedBase.reverse.filterMap (complaint sharedBase)) ∧
      (flatten sharedBase.reverse).1.Perm (flatten sharedBase).1 ∧
      (flatten sharedBase.reverse).2.Perm (flatten sharedBase).2 := by
  have hnodup : (sharedDeclarations.prompts.map (·.id)).Nodup := by decide
  have hperm : sharedBase.reverse.Perm sharedDeclarations.prompts := List.reverse_perm _
  obtain ⟨hregistry, hreordered⟩ := flatten_redeclared sharedDeclarations "c" "/"
  exact ⟨hnodup, hperm, hregistry, hreordered hnodup _ hperm⟩

end Prompt

end ContextCompiler
