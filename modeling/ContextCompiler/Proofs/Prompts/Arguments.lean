import Mathlib.Data.List.Forall2
import ContextCompiler.Prompts.Flatten
import ContextCompiler.Prompts.Render
import ContextCompiler.Proofs.Config.Substitution
import ContextCompiler.Proofs.Registry.Absorb

/-!
Which arguments a prompt needs, and what its messages come to.

A schema may be a data value of any shape: what it requires and what its properties are is read
off it (`requiredItems`, `properties`), and a shape that makes no sense says nothing. The names that
are bound in the end are those that are given or have a default (`get?_merge_schemaDefaults`), which
is just what is asked of a required name, so a prompt is refused exactly when one of them would stay
unbound. A default is only read for a name that is not given.
-/

namespace ContextCompiler

/-! ## Maps from lists in which keys are repeated -/

namespace SortedMap

variable {α : Type}

/-- Of the bindings of a key the last one counts. -/
theorem get?_ofList_eq_getLast? (es : List (String × α)) (k : String) :
    (ofList es).get? k = (es.filterMap fun e => if e.1 = k then some e.2 else none).getLast? := by
  induction es using List.reverseRecOn with
  | nil => rfl
  | append_singleton es e ih =>
    have hinsert : ofList (es ++ [e]) = (ofList es).insert e.1 e.2 := by
      rw [ofList, List.foldl_append, List.foldl_cons, List.foldl_nil]
      rfl
    rw [hinsert, get?_insert, ih, List.filterMap_append, List.filterMap_cons, List.filterMap_nil]
    by_cases hk : e.1 = k
    · rw [if_pos hk, if_pos hk.symm, List.getLast?_concat]
    · rw [if_neg hk, if_neg (Ne.symm hk), List.append_nil]

end SortedMap

namespace Prompt

variable {p : Prompt} {arguments : Scope} {name : String} {v : Json}

/-! ## Definitions -/

/-- The items that the schema lists as required. A schema of another shape lists none. -/
def requiredItems (p : Prompt) : List Json :=
  match p.schema with
  | some (.obj fields) =>
    match fields.lookup "required" with
    | some (.arr items) => items
    | _ => []
  | _ => []

/-- The properties that the schema describes. A schema of another shape describes none. -/
def properties (p : Prompt) : List (String × Json) :=
  match p.schema with
  | some (.obj fields) =>
    match fields.lookup "properties" with
    | some (.obj properties) => properties
    | _ => []
  | _ => []

/-- A property has a default that is not null. -/
def HasDefault (p : Prompt) (name : String) : Prop :=
  ∃ spec v, (name, spec) ∈ p.properties ∧ spec.field? "default" = some v ∧ v ≠ .null

/-- The text of the default of a property. Where a property is described more than once, the last
default counts. -/
def defaultOf? (p : Prompt) (name : String) : Option String :=
  (p.properties.filterMap fun e =>
    if e.1 = name then (e.2.field? "default").bind defaultText? else none).getLast?

/-- A name has a value: as an argument or by default. -/
def IsProvided (p : Prompt) (arguments : Scope) (name : String) : Prop :=
  (∃ text, arguments.get? name = some text) ∨ p.HasDefault name

/-- What is listed as required is a name without a value. -/
def IsMissing (p : Prompt) (arguments : Scope) (item : Json) : Prop :=
  ∃ name, item = .str name ∧ ¬ p.IsProvided arguments name

/-- A message is another one with its tokens filled in: each token that the text divides into from
left to right gives way to the value of its key, if there is one, and nothing is read again. -/
def IsFilled (scope : Scope) (m filled : Message) : Prop :=
  filled.role = m.role ∧ ∃ pieces, TokenForm.braces.Divides m.content.toList pieces ∧
    filled.content.toList = pieces.flatMap (TextPiece.fill scope)

/-! ## Reading a schema -/

theorem requiredArguments_eq (p : Prompt) :
    p.requiredArguments = p.requiredItems.filterMap Json.str? := by
  unfold requiredArguments requiredItems
  rcases p.schema with _ | schema
  · rfl
  cases schema with
  | obj fields =>
    simp only [Option.bind_some, Json.field?]
    rcases fields.lookup "required" with _ | required
    · rfl
    · cases required <;> rfl
  | _ => rfl

theorem schemaDefaults_eq (p : Prompt) :
    p.schemaDefaults = .ofList (p.properties.filterMap fun (name, spec) =>
      ((spec.field? "default").bind defaultText?).map fun v => (name, v)) := by
  unfold schemaDefaults properties
  rcases p.schema with _ | schema
  · rfl
  cases schema with
  | obj fields =>
    simp only [Option.bind_some, Json.field?]
    rcases fields.lookup "properties" with _ | properties
    · rfl
    · cases properties <;> rfl
  | _ => rfl

theorem defaultText?_eq_none_iff : defaultText? v = none ↔ v = .null := by
  cases v <;> simp [defaultText?]

theorem get?_schemaDefaults (p : Prompt) (name : String) :
    p.schemaDefaults.get? name = p.defaultOf? name := by
  rw [schemaDefaults_eq, SortedMap.get?_ofList_eq_getLast?, List.filterMap_filterMap, defaultOf?]
  congr 1
  refine List.filterMap_congr fun e _ => ?_
  obtain ⟨key, spec⟩ := e
  dsimp only
  rcases (spec.field? "default").bind defaultText? with _ | text
  · rw [ite_self]
    rfl
  · rfl

/-- A default has a text unless it is null. -/
theorem defaultOf?_eq_none_iff : p.defaultOf? name = none ↔ ¬ p.HasDefault name := by
  rw [defaultOf?, List.getLast?_eq_none_iff, List.filterMap_eq_nil_iff]
  constructor
  · rintro h ⟨spec, v, hmem, hv, hnull⟩
    have hnone := h (name, spec) hmem
    rw [if_pos rfl, hv, Option.bind_some, defaultText?_eq_none_iff] at hnone
    exact hnull hnone
  · rintro h ⟨key, spec⟩ hmem
    rw [ite_eq_right_iff]
    rintro rfl
    rw [Option.bind_eq_none_iff]
    intro v hv
    rw [defaultText?_eq_none_iff]
    by_contra hnull
    exact h ⟨spec, v, hmem, hv, hnull⟩

/-! ## Names with a value -/

theorem get?_merge_schemaDefaults (p : Prompt) (arguments : Scope) (name : String) :
    (p.schemaDefaults.merge arguments).get? name =
      (arguments.get? name).or (p.defaultOf? name) := by
  rw [SortedMap.get?_merge, get?_schemaDefaults]

/-- The names that are bound in the end are those that have a value. -/
theorem isNone_get?_merge_iff :
    ((p.schemaDefaults.merge arguments).get? name).isNone = true ↔
      ¬ p.IsProvided arguments name := by
  rw [get?_merge_schemaDefaults, Option.isNone_or, Bool.and_eq_true, Option.isNone_iff_eq_none,
    Option.isNone_iff_eq_none, defaultOf?_eq_none_iff, IsProvided, not_or,
    ← Option.ne_none_iff_exists', not_not]

instance (p : Prompt) (arguments : Scope) : DecidablePred (p.IsProvided arguments) := fun _ =>
  decidable_of_iff _ (not_iff_comm.1 isNone_get?_merge_iff.symm)

theorem isMissing_str_iff : p.IsMissing arguments (.str name) ↔ ¬ p.IsProvided arguments name :=
  ⟨fun ⟨_, h, h'⟩ => Json.str.inj h ▸ h', fun h => ⟨name, rfl, h⟩⟩

instance (p : Prompt) (arguments : Scope) : DecidablePred (p.IsMissing arguments)
  | .str _ => decidable_of_iff _ isMissing_str_iff.symm
  | .null | .bool _ | .int _ | .float _ | .arr _ | .obj _ => isFalse nofun

/-- What is missing is found among the required items, in their order and as often as it is listed
there. -/
theorem map_str_missingArguments (p : Prompt) (arguments : Scope) :
    (p.missingArguments arguments).map .str = p.requiredItems.filter (p.IsMissing arguments) := by
  rw [missingArguments, requiredArguments_eq]
  -- what is no text is passed over on both sides
  induction p.requiredItems with
  | nil => rfl
  | cons item items ih =>
    cases item with
    | str name =>
      rw [List.filterMap_cons_some (f := Json.str?) rfl, List.filter_cons, List.filter_cons]
      by_cases h : p.IsMissing arguments (.str name)
      · rw [if_pos (isNone_get?_merge_iff.2 (isMissing_str_iff.1 h)), if_pos (decide_eq_true h),
          List.map_cons, ih]
      · rw [if_neg (mt isNone_get?_merge_iff.1 (mt isMissing_str_iff.2 h)),
          if_neg (mt of_decide_eq_true h), ih]
    | _ => exact ih

theorem missingArguments_eq_nil_iff : p.missingArguments arguments = [] ↔
    ∀ name, .str name ∈ p.requiredItems → p.IsProvided arguments name := by
  rw [← List.map_eq_nil_iff (f := Json.str), map_str_missingArguments, List.filter_eq_nil_iff]
  simp only [decide_eq_true_eq]
  constructor
  · exact fun h name hname => not_not.1 (mt isMissing_str_iff.2 (h _ hname))
  · rintro h _ hitem ⟨name, rfl, hname⟩
    exact hname (h name hitem)

/-! ## What comes of a prompt -/

theorem render_eq_error_iff {e : Failure} : p.render arguments = .error e ↔
    p.missingArguments arguments ≠ [] ∧
      e = .validation ("prompt '" ++ p.id ++ "' is missing required argument(s): "
        ++ Text.join ", " (p.missingArguments arguments)) := by
  rw [render]
  split
  · next h => exact ⟨nofun, fun h' => absurd (List.isEmpty_iff.1 h) h'.1⟩
  · next h =>
    rw [Except.error.injEq]
    exact ⟨fun h' => ⟨mt List.isEmpty_iff.2 h, h'.symm⟩, fun h' => h'.2.symm⟩

theorem render_eq_ok_iff {filled : List Message} : p.render arguments = .ok filled ↔
    p.missingArguments arguments = [] ∧
      filled = p.messages.map (fillMessage (p.schemaDefaults.merge arguments)) := by
  rw [render]
  split
  · next h =>
    rw [Except.ok.injEq]
    exact ⟨fun h' => ⟨List.isEmpty_iff.1 h, h'.symm⟩, fun h' => h'.2.symm⟩
  · next h => exact ⟨nofun, fun h' => absurd (List.isEmpty_iff.2 h'.1) h⟩

theorem isFilled_fillMessage (scope : Scope) (m : Message) :
    IsFilled scope m (fillMessage scope m) :=
  ⟨rfl, _, TokenForm.divides_pieces .braces _, Scope.toList_fillTokens scope .braces m.content⟩

/-- What stands below an argument is not seen. -/
theorem merge_schemaDefaults_congr {q : Prompt}
    (h : ∀ name, arguments.get? name = none → q.defaultOf? name = p.defaultOf? name) :
    q.schemaDefaults.merge arguments = p.schemaDefaults.merge arguments := by
  refine SortedMap.ext_get? fun name => ?_
  rw [get?_merge_schemaDefaults, get?_merge_schemaDefaults]
  cases hname : arguments.get? name with
  | none => rw [h name hname]
  | some text => rfl

/-- A prompt is refused exactly when a required name has neither an argument nor a default, and all
these names are told, as they are listed. Else every message is given out with its role, and its
tokens are filled in by one pass, with the arguments on top of the defaults. So only the defaults of
names that are not given count, whatever the schema says. -/
theorem render_arguments (p : Prompt) (arguments : Scope) :
    ((∃ e, p.render arguments = .error e) ↔
      ∃ name, .str name ∈ p.requiredItems ∧ ¬ p.IsProvided arguments name) ∧
    (∀ e, p.render arguments = .error e → ∃ missing : List String,
      missing.map .str = p.requiredItems.filter (p.IsMissing arguments) ∧
      e = .validation ("prompt '" ++ p.id ++ "' is missing required argument(s): "
        ++ Text.join ", " missing)) ∧
    (∀ filled, p.render arguments = .ok filled → ∃ scope : Scope,
      (∀ name, scope.get? name = (arguments.get? name).or (p.defaultOf? name)) ∧
      List.Forall₂ (IsFilled scope) p.messages filled) ∧
    ∀ q : Prompt, q.id = p.id → q.messages = p.messages → q.requiredItems = p.requiredItems →
      (∀ name, arguments.get? name = none → q.defaultOf? name = p.defaultOf? name) →
      q.render arguments = p.render arguments := by
  refine ⟨?_, ?_, ?_, ?_⟩
  · have hmissing : (∃ e, p.render arguments = .error e) ↔ p.missingArguments arguments ≠ [] := by
      simp only [render_eq_error_iff, exists_and_left, exists_eq, and_true]
    rw [hmissing, Ne, missingArguments_eq_nil_iff]
    simp only [not_forall, exists_prop]
  · intro e he
    exact ⟨_, map_str_missingArguments p arguments, (render_eq_error_iff.1 he).2⟩
  · intro filled hfilled
    refine ⟨_, get?_merge_schemaDefaults p arguments, ?_⟩
    rw [(render_eq_ok_iff.1 hfilled).2, List.forall₂_map_right_iff, List.forall₂_same]
    exact fun m _ => isFilled_fillMessage _ m
  · intro q hid hmessages hrequired hdefaults
    rw [render, render, missingArguments, missingArguments, requiredArguments_eq,
      requiredArguments_eq, hid, hmessages, hrequired, merge_schemaDefaults_congr hdefaults]

/-- Requires a name twice, a number, and a name whose property is not described by an object. -/
def review : Prompt :=
  { blank with
    id := "review"
    schema := some (.obj [
      ("properties", .obj [("depth", .obj [("default", .int 3)]),
        ("focus", .obj [("default", .str "style")]), ("language", .obj [("default", .null)]),
        ("tone", .str "dry")]),
      ("required", .arr [.str "language", .int 5, .str "focus", .str "tone", .str "language"])])
    messages := [⟨"user", "{{focus}} of {{ language }} to {{depth}}"⟩] }

/-- The same with a default for another name and none for `focus`. -/
def reviewAgain : Prompt :=
  { review with
    schema := some (.obj [
      ("properties", .obj [("depth", .obj [("default", .int 3)]),
        ("language", .obj [("default", .str "Go")])]),
      ("required", .arr [.str "language", .int 5, .str "focus", .str "tone", .str "language"])]) }

/-- Arguments for all that is required; one of them looks like a token. -/
def reviewArguments : Scope :=
  .ofList [("focus", "{{tone}}"), ("language", "Lean"), ("tone", "plain")]

/-- Without arguments only `focus` has a value. -/
def reviewRefusal : Failure :=
  .validation "prompt 'review' is missing required argument(s): language, tone, language"

def reviewFilled : List Message := [⟨"user", "{{tone}} of Lean to 3"⟩]

theorem render_review :
    review.render .empty = .error reviewRefusal ∧
    (∃ name, .str name ∈ review.requiredItems ∧ ¬ review.IsProvided .empty name) ∧
    (∃ missing : List String,
      missing.map .str = review.requiredItems.filter (review.IsMissing .empty) ∧
      reviewRefusal = .validation ("prompt '" ++ review.id ++ "' is missing required argument(s): "
        ++ Text.join ", " missing)) ∧
    review.render reviewArguments = .ok reviewFilled ∧
    (∃ scope : Scope,
      (∀ name, scope.get? name = (reviewArguments.get? name).or (review.defaultOf? name)) ∧
      List.Forall₂ (IsFilled scope) review.messages reviewFilled) ∧
    (∀ name, reviewArguments.get? name = none →
      reviewAgain.defaultOf? name = review.defaultOf? name) ∧
    reviewAgain.render reviewArguments = review.render reviewArguments := by
  have hrefused : review.render .empty = .error reviewRefusal := by rfl
  have hfilled : review.render reviewArguments = .ok reviewFilled := by cbv
  have hdefaults : ∀ name, reviewArguments.get? name = none →
      reviewAgain.defaultOf? name = review.defaultOf? name := by
    intro name hname
    have hgiven : ∀ key ∈ ["focus", "language", "tone"], key ≠ name := by
      rintro key hkey rfl
      revert key
      decide
    simp only [List.forall_mem_cons] at hgiven
    simp [defaultOf?, properties, reviewAgain, review, hgiven]
  obtain ⟨hfails, hnames, -, -⟩ := render_arguments review .empty
  obtain ⟨-, -, hgiven, hsame⟩ := render_arguments review reviewArguments
  exact ⟨hrefused, hfails.1 ⟨_, hrefused⟩, hnames _ hrefused, hfilled, hgiven _ hfilled,
    hdefaults, hsame reviewAgain rfl rfl rfl hdefaults⟩

end Prompt

end ContextCompiler
