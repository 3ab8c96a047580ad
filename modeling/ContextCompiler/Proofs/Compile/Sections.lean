import Mathlib
import ContextCompiler.Compile.Document

/-!
What a document is compiled to by what its sources come to.

Compiling fetches the sources in order (`fetchAll`) and makes the document from the outcomes alone
(`compile_eq`): a section for each source (`sectionTexts`), and an error for each source that fails
(`failures`). So a source shows in its own section and in its own error, and nowhere else before
the variables are filled in (`compile_isolated`).
-/

namespace ContextCompiler

/-- Of modifiers in two lists, the second ones are applied to the result of the first ones. -/
theorem ModifierChain.apply_append (c : ModifierChain) (text : String)
    (first second : List ModifierUse) :
    c.apply text (first ++ second) =
      (c.apply text first).bind fun text => c.apply text second :=
  List.foldlM_append

namespace DocumentCompiler

/-- A source with what its fetch came to. -/
abbrev Fetched := Source × Except Failure String

variable {c c' : DocumentCompiler} {d : Document} {ctx : FetchContext}

/-! ## Sections and errors -/

/-- What a source comes to: its content after its own modifiers, and then those of the document. -/
def body (c : DocumentCompiler) (d : Document) (f : Fetched) : Except Failure String := do
  let own ← c.modifiers.apply (← f.2) f.1.modifiers
  c.modifiers.apply own d.modifiers

/-- The section of a source. One that failed says why. -/
def sectionFor (c : DocumentCompiler) (d : Document) (f : Fetched) : String :=
  sectionText f.1 <|
    match c.body d f with
    | .ok text => text
    | .error e => "Error: " ++ e.message

/-- The name of the `index`-th source in the log of its document. -/
def errorScope (d : Document) (index : Nat) : String :=
  d.outputPath ++ "#source[" ++ toString index ++ "]"

/-- The error of a source that failed, by its number. -/
def failure? (c : DocumentCompiler) (d : Document) (f : Fetched × Nat) : Option LoggedError :=
  match c.body d f.1 with
  | .ok _ => none
  | .error e => some ⟨errorScope d f.2, e.message⟩

/-- The sections of sources. -/
def sectionTexts (c : DocumentCompiler) (d : Document) (fetched : List Fetched) : List String :=
  fetched.map (c.sectionFor d)

/-- The errors of the sources that failed, from the `index`-th source on. -/
def failures (c : DocumentCompiler) (d : Document) (index : Nat) (fetched : List Fetched) :
    List LoggedError :=
  (fetched.zipIdx index).filterMap (c.failure? d)

theorem errorScope_inj {i j : Nat} : errorScope d i = errorScope d j ↔ i = j := by
  simp only [errorScope, String.append_left_inj, String.append_right_inj]
  exact Nat.repr_inj

theorem body_eq (c : DocumentCompiler) (d : Document) (f : Fetched) :
    c.body d f = f.2.bind fun text => c.modifiers.apply text (f.1.modifiers ++ d.modifiers) := by
  unfold body
  cases f.2 with
  | error e => rfl
  | ok text => exact (c.modifiers.apply_append text f.1.modifiers d.modifiers).symm

theorem body_congr (h : c.modifiers = c'.modifiers) : c.body d = c'.body d := by
  unfold body
  rw [h]

theorem sectionFor_congr (h : c.modifiers = c'.modifiers) : c.sectionFor d = c'.sectionFor d := by
  unfold sectionFor
  rw [body_congr h]

theorem failure?_congr (h : c.modifiers = c'.modifiers) : c.failure? d = c'.failure? d := by
  unfold failure?
  rw [body_congr h]

theorem sectionOf_eq (c : DocumentCompiler) (d : Document) (index : Nat) (f : Fetched) :
    c.sectionOf d index f.1 f.2 = (c.sectionFor d f, ⟨(c.failure? d (f, index)).toList⟩) := by
  unfold sectionOf sectionFor failure?
  rw [← body_eq]
  cases c.body d f <;> rfl

theorem failures_cons (c : DocumentCompiler) (d : Document) (index : Nat) (f : Fetched)
    (rest : List Fetched) :
    c.failures d index (f :: rest) =
      (c.failure? d (f, index)).toList ++ c.failures d (index + 1) rest := by
  rw [failures, List.zipIdx_cons, List.filterMap_cons]
  cases c.failure? d (f, index) <;> rfl

/-! ## Compiling -/

theorem run_fetch (c : DocumentCompiler) (ctx : FetchContext) (s : Source) (t : Traffic) :
    (c.fetch ctx s).run t =
      if t.cancelled then (.error cancelled, t) else (c.answer ctx s).run t := by
  unfold fetch
  cases h : t.cancelled with
  | false => simp [h]
  | true =>
    simp [h]
    rfl

/-- The sources with what their fetches come to, one after the other. -/
def fetchAll (c : DocumentCompiler) (ctx : FetchContext) (sources : List Source) :
    StateM Traffic (List Fetched) :=
  sources.mapM fun s => do return (s, ← c.fetch ctx s)

/-- What a document is compiled to by what its sources come to. -/
def compiledBy (c : DocumentCompiler) (scope : Scope) (d : Document) (fetched : List Fetched) :
    CompiledDocument :=
  assemble scope d (c.sectionTexts d fetched) ⟨c.failures d 0 fetched⟩

theorem sections_eq (c : DocumentCompiler) (d : Document) (ctx : FetchContext) (index : Nat)
    (sources : List Source) :
    c.sections d ctx index sources =
      (fun fetched => (c.sectionTexts d fetched, ⟨c.failures d index fetched⟩)) <$>
        c.fetchAll ctx sources := by
  induction sources generalizing index with
  | nil => rfl
  | cons s rest ih =>
    rw [sections, fetchAll, List.mapM_cons]
    simp only [bind_assoc, map_bind, pure_bind, map_pure, ih, bind_map_left]
    refine bind_congr fun r => bind_congr fun fetched => ?_
    rw [sectionOf_eq c d index (s, r), failures_cons]
    rfl

/-- A document is compiled from what its sources come to, and from nothing else. -/
theorem compile_eq (c : DocumentCompiler) (scope : Scope) (p : PlacedDocument) :
    c.compile scope p =
      c.compiledBy scope p.document <$> c.fetchAll (c.context p) p.document.sources := by
  rw [compile, sections_eq, bind_map_left, map_eq_pure_bind]
  rfl

theorem run_compile (c : DocumentCompiler) (scope : Scope) (p : PlacedDocument) (t : Traffic) :
    ((c.compile scope p).run t).1 =
      c.compiledBy scope p.document ((c.fetchAll (c.context p) p.document.sources).run t).1 := by
  rw [compile_eq]
  rfl

theorem run_fetchAll_cons (c : DocumentCompiler) (ctx : FetchContext) (s : Source)
    (rest : List Source) (t : Traffic) :
    ((c.fetchAll ctx (s :: rest)).run t).1 =
      (s, ((c.fetch ctx s).run t).1) ::
        ((c.fetchAll ctx rest).run ((c.fetch ctx s).run t).2).1 := by
  rw [fetchAll, List.mapM_cons]
  rfl

theorem fst_fetchAll (c : DocumentCompiler) (ctx : FetchContext) (sources : List Source)
    (t : Traffic) : ((c.fetchAll ctx sources).run t).1.map Prod.fst = sources := by
  induction sources generalizing t with
  | nil => rfl
  | cons s rest ih => rw [run_fetchAll_cons, List.map_cons, ih]

/-! ## Runs that differ in one source -/

/-- The errors of all sources but one are those of the other sources. -/
theorem filter_failures (c : DocumentCompiler) (d : Document) (index : Nat)
    (fetched : List Fetched) :
    (c.failures d 0 fetched).filter (·.scope ≠ errorScope d index) =
      (fetched.zipIdx.filter (·.2 ≠ index)).filterMap (c.failure? d) := by
  rw [failures, List.filter_filterMap, List.filterMap_filter]
  refine List.filterMap_congr fun f _ => ?_
  unfold failure?
  cases c.body d f.1 with
  | ok text => simp
  | error e => simp [Option.filter, errorScope_inj]

theorem filter_zipIdx_congr {α : Type} {l l' : List α} {start i : Nat}
    (hlength : l.length = l'.length) (h : ∀ j, start + j ≠ i → l[j]? = l'[j]?) :
    (l.zipIdx start).filter (·.2 ≠ i) = (l'.zipIdx start).filter (·.2 ≠ i) := by
  induction l generalizing l' start with
  | nil => rw [List.eq_nil_of_length_eq_zero hlength.symm]
  | cons a rest ih =>
    cases l' with
    | nil => cases hlength
    | cons a' rest' =>
      have hrest : (rest.zipIdx (start + 1)).filter (·.2 ≠ i) =
          (rest'.zipIdx (start + 1)).filter (·.2 ≠ i) :=
        ih (Nat.succ.inj hlength) fun j hj => h (j + 1) (by omega)
      rw [List.zipIdx_cons, List.zipIdx_cons, List.filter_cons, List.filter_cons, hrest]
      by_cases hi : start = i
      · simp [hi]
      · have hhead := h 0 hi
        rw [List.getElem?_cons_zero, List.getElem?_cons_zero, Option.some_inj] at hhead
        rw [hhead]

theorem filter_failures_congr {fetched fetched' : List Fetched} {index : Nat}
    (hmodifiers : c.modifiers = c'.modifiers) (hlength : fetched.length = fetched'.length)
    (hothers : ∀ j, j ≠ index → fetched[j]? = fetched'[j]?) :
    (c.failures d 0 fetched).filter (·.scope ≠ errorScope d index) =
      (c'.failures d 0 fetched').filter (·.scope ≠ errorScope d index) := by
  rw [filter_failures, filter_failures, failure?_congr hmodifiers,
    filter_zipIdx_congr hlength fun j hj => hothers j (by rwa [Nat.zero_add] at hj)]

theorem getElem?_sectionTexts_congr {fetched fetched' : List Fetched} {j : Nat}
    (hmodifiers : c.modifiers = c'.modifiers) (h : fetched[j]? = fetched'[j]?) :
    (c.sectionTexts d fetched)[j]? = (c'.sectionTexts d fetched')[j]? := by
  rw [sectionTexts, sectionTexts, List.getElem?_map, List.getElem?_map, h,
    sectionFor_congr hmodifiers]

/-! ## Fetching by a script -/

/-- Fetching that comes to one outcome after the other. The number of requests tells how many have
been used up. -/
def script (outcomes : List (Except Failure String)) : Fetching String :=
  ExceptT.mk fun t =>
    (match outcomes[t.requests.length]? with
      | some r => r.mapError .failure
      | none => .error .silence,
      { t with requests := t.requests ++ [⟨"", []⟩] })

/-- Fetchers that all follow one script. -/
def scripted (outcomes : List (Except Failure String)) : FetcherRegistry :=
  ⟨SourceType.all.map fun type => ⟨type.name, fun _ _ => script outcomes⟩⟩

theorem fetch_scripted (outcomes : List (Except Failure String)) (ctx : FetchContext) (s : Source) :
    (scripted outcomes).fetch ctx s = script outcomes := by
  unfold FetcherRegistry.fetch scripted
  cases s.kind.type <;> rfl

theorem run_fetch_scripted {outcomes : List (Except Failure String)} {r : Except Failure String}
    (hc : c.fetchers = scripted outcomes) (ctx : FetchContext) (s : Source) {t : Traffic}
    (ht : t.cancelled = false) (hr : outcomes[t.requests.length]? = some r) :
    (c.fetch ctx s).run t = (r, { t with requests := t.requests ++ [⟨"", []⟩] }) := by
  have hscript : (script outcomes).run.run t =
      (r.mapError .failure, { t with requests := t.requests ++ [⟨"", []⟩] }) := by
    show (match outcomes[t.requests.length]? with
      | some r => r.mapError Halt.failure
      | none => .error Halt.silence, _) = _
    rw [hr]
  rw [run_fetch, if_neg (ht ▸ Bool.false_ne_true), answer, hc, fetch_scripted, StateT.run_bind,
    hscript]
  cases r <;> rfl

/-- Sources come to any outcomes at all by some fetchers. -/
theorem fetchAll_scripted (used : List Fetched) {fetched : List Fetched}
    (hc : c.fetchers = scripted ((used ++ fetched).map Prod.snd)) (ctx : FetchContext) {t : Traffic}
    (ht : t.cancelled = false) (hused : t.requests.length = used.length) :
    ((c.fetchAll ctx (fetched.map Prod.fst)).run t).1 = fetched := by
  induction fetched generalizing used t with
  | nil => rfl
  | cons f rest ih =>
    have hf : ((used ++ f :: rest).map Prod.snd)[t.requests.length]? = some f.2 := by
      simp [hused]
    have hrun := run_fetch_scripted hc ctx f.1 ht hf
    rw [List.map_cons, run_fetchAll_cons, hrun]
    exact congrArg _ (ih (used ++ [f]) (by rw [hc, List.append_cons]) ht (by simp [hused]))

/-- Before variables are filled in, a document is its title and a section for each source in order,
between blank lines, and its log has an error for each source that failed, in order. That is so
whatever the sources come to, and they may come to anything. Where two runs differ in what one
source comes to, the sections and the errors of all other sources are the same. -/
theorem compile_isolated :
    (∀ (c : DocumentCompiler) (scope : Scope) (p : PlacedDocument) (traffic : Traffic),
      let d := p.document
      let fetched := ((c.fetchAll (c.context p) d.sources).run traffic).1
      let compiled := ((c.compile scope p).run traffic).1
      fetched.map Prod.fst = d.sources ∧
      compiled.content =
        scope.substitute (Text.join "\n\n" (title d ++ c.sectionTexts d fetched) ++ "\n") ∧
      compiled.errors.entries = c.failures d 0 fetched) ∧
    (∀ (c : DocumentCompiler) (ctx : FetchContext) (fetched : List Fetched), ∃ fetchers,
      (({ c with fetchers := fetchers }.fetchAll ctx (fetched.map Prod.fst)).run .none).1 =
        fetched) ∧
    ∀ (c c' : DocumentCompiler) (scope : Scope) (p : PlacedDocument) (traffic traffic' : Traffic)
      (index : Nat),
      let d := p.document
      let fetched := ((c.fetchAll (c.context p) d.sources).run traffic).1
      let fetched' := ((c'.fetchAll (c'.context p) d.sources).run traffic').1
      c.modifiers = c'.modifiers → (∀ j, j ≠ index → fetched[j]? = fetched'[j]?) →
      (∀ j, j ≠ index → (c.sectionTexts d fetched)[j]? = (c'.sectionTexts d fetched')[j]?) ∧
      ((c.compile scope p).run traffic).1.errors.entries.filter (·.scope ≠ errorScope d index) =
        ((c'.compile scope p).run traffic').1.errors.entries.filter
          (·.scope ≠ errorScope d index) := by
  refine ⟨fun c scope p traffic => ?_, fun c ctx fetched => ?_, ?_⟩
  · dsimp only
    rw [run_compile]
    exact ⟨fst_fetchAll c _ _ _, rfl, rfl⟩
  · exact ⟨scripted (fetched.map Prod.snd), fetchAll_scripted [] rfl ctx rfl rfl⟩
  · intro c c' scope p traffic traffic' index
    dsimp only
    intro hmodifiers hothers
    have hlength := congrArg List.length
      ((fst_fetchAll c (c.context p) p.document.sources traffic).trans
        (fst_fetchAll c' (c'.context p) p.document.sources traffic').symm)
    rw [List.length_map, List.length_map] at hlength
    rw [run_compile, run_compile]
    exact ⟨fun j hj => getElem?_sectionTexts_congr hmodifiers (hothers j hj),
      filter_failures_congr hmodifiers hlength hothers⟩

/-- A document with a file and a text, of which the text is trimmed. -/
def mixed : PlacedDocument :=
  ⟨⟨"/context.yaml", 0⟩, "/", ⟨"Mixed", "mixed.md", true, [],
    [⟨"", none, [], .file ⟨["missing.txt"], [], [], [], [], [], none, false⟩⟩,
     ⟨"", some "NOTE", [], .text " still here"⟩], [.named "trim"]⟩⟩

/-- A compiler for it by what its file comes to. -/
def mixedBy (file : Except Failure String) : DocumentCompiler :=
  ⟨scripted [file, .ok " still here"], .standard, .ofSeconds 5, ⟨"/", none, none, none⟩⟩

theorem mixed_isolated :
    let missing := mixedBy (.error (.fetch "no such file"))
    let there := mixedBy (.ok "found")
    let fetched (c : DocumentCompiler) :=
      ((c.fetchAll (c.context mixed) mixed.document.sources).run .none).1
    (∀ j, j ≠ 0 → (fetched missing)[j]? = (fetched there)[j]?) ∧
    ((missing.compile .empty mixed).run .none).1 =
      ⟨"mixed.md", true,
        "# Mixed\n\nError: fetch error: no such file\n\n<NOTE>\nstill here\n</NOTE>\n",
        ⟨[⟨"mixed.md#source[0]", "fetch error: no such file"⟩]⟩⟩ ∧
    (missing.sectionTexts mixed.document (fetched missing))[1]? =
      (there.sectionTexts mixed.document (fetched there))[1]? ∧
    ((missing.compile .empty mixed).run .none).1.errors.entries.filter
        (·.scope ≠ errorScope mixed.document 0) =
      ((there.compile .empty mixed).run .none).1.errors.entries.filter
        (·.scope ≠ errorScope mixed.document 0) := by
  intro missing there fetched
  have hothers : ∀ j, j ≠ 0 → (fetched missing)[j]? = (fetched there)[j]? := by
    rintro (_ | j) hj
    · exact absurd rfl hj
    · rfl
  obtain ⟨-, -, h⟩ := compile_isolated
  obtain ⟨hsections, herrors⟩ := h missing there .empty mixed .none .none 0 rfl hothers
  exact ⟨hothers, by decide +kernel, hsections 1 Nat.one_ne_zero, herrors⟩

end DocumentCompiler

end ContextCompiler
