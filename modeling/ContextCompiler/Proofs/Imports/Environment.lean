import ContextCompiler.Proofs.Config.Tokens
import ContextCompiler.Proofs.Imports.Reached

/-!
What a run takes from the environment.

Values of the environment come in where a directive says where it leads and what headers to send.
Two graphs that lead and load alike from a root on come to the same (`SameFrom.resolveRoot_eq`),
so only the keys that stand in the directives of configurations that can be reached matter. What
configurations declare otherwise goes into registries as it stands (`Declared`).
-/

namespace ContextCompiler

namespace ImportGraph

variable {g g' : ImportGraph} {n m root : ImportNode} {branch : List String}
  {arcs : List ImportArc} {acc acc' r sub : Registry} {s s' : ResolverState}
  {d : ImportDirective} {t : ConfigPlace}

/-! ## Graphs that are alike from a root on -/

/-- The directives of the configurations that can be reached from a root lead to the same and load
the same. -/
structure SameFrom (g g' : ImportGraph) (root : ImportNode) : Prop where
  targets : ∀ n, g.Reach root n → ∀ d ∈ n.raw.imports, g'.targets n.place d = g.targets n.place d
  load : ∀ d t, g.Leads root d t → g'.load t d = g.load t d
  baseDir : g'.baseDir = g.baseDir

namespace SameFrom

theorem arcs_eq (h : g.SameFrom g' root) (hn : g.Reach root n) : g'.arcs n = g.arcs n :=
  List.flatMap_congr fun d hd => by rw [h.targets n hn d hd]

theorem own_eq (h : g.SameFrom g' root) (n : ImportNode) : g'.own n = g.own n := by
  rw [own, own, h.baseDir]

theorem answer_eq (h : g.SameFrom g' root) (hd : g.Leads root d t) :
    g'.answer t d = g.answer t d := by
  rw [answer, answer, h.load d t hd]

theorem ask_eq (h : g.SameFrom g' root) (hd : g.Leads root d t) : g'.ask t d s = g.ask t d s := by
  rw [ask, ask, h.load d t hd]

theorem imports_iff (h : g.SameFrom g' root) (hn : g.Reach root n) :
    g'.Imports n m ↔ g.Imports n m := by
  unfold Imports
  rw [h.arcs_eq hn]
  refine exists_congr fun d => and_congr_right fun hd => ?_
  rw [h.answer_eq (hn.leads hd)]

theorem reach_of_reach (h : g.SameFrom g' root) (hn : g'.Reach root n) : g.Reach root n := by
  induction hn with
  | refl => exact .refl
  | tail _ hi ih => exact ih.step ((h.imports_iff ih).1 hi)

theorem symm (h : g.SameFrom g' root) : g'.SameFrom g root := by
  refine ⟨fun n hn d hd => (h.targets n (h.reach_of_reach hn) d hd).symm, ?_, h.baseDir.symm⟩
  rintro d t ⟨n, hn, hd⟩
  have hn := h.reach_of_reach hn
  rw [h.arcs_eq hn] at hd
  exact (h.load d t (hn.leads hd)).symm

end SameFrom

/-- A run in one of two graphs that are alike is a run in the other. -/
theorem Folds.same (h : g.Folds n branch arcs acc s acc' s') (hg : g.Steady)
    (hs : g.SameFrom g' root) (hu : g.Underway root n branch arcs) :
    g'.Folds n branch arcs acc s acc' s' := by
  induction h with
  | done => exact .done
  | stray _ ih => exact .stray (ih hu.rest)
  | cycle hb _ ih => exact .cycle hb (ih hu.rest)
  | known hb hk _ ih => exact .known hb hk (ih hu.rest)
  | failed hb hk hl _ ih => exact .failed hb hk ((hs.ask_eq hu.leads).trans hl) (ih hu.rest)
  | @loaded n child _ _ _ _ _ _ _ _ _ _ hb hk hl _ _ ih ih' =>
    have hchild := hu.child hb (hg.answer_ok hl)
    have hsub := ih hchild
    have hrest := ih' hu.rest
    rw [← hs.arcs_eq hchild.reach] at hsub
    rw [← hs.own_eq child] at hrest
    exact .loaded hb hk ((hs.ask_eq hu.leads).trans hl) hsub hrest

theorem resolveRoot_of_same (h : g.resolveRoot root = some (r, s)) (hg : g.Steady)
    (hs : g.SameFrom g' root) : g'.resolveRoot root = some (r, s) := by
  obtain ⟨imported, hf, rfl⟩ := folds_of_resolveRoot h
  have hf' := hf.same hg hs .start
  rw [← hs.arcs_eq .refl] at hf'
  rw [← hs.own_eq root]
  exact resolveRoot_of_folds hf'

/-- A root comes to the same in graphs that are alike, and to the same record. -/
theorem SameFrom.resolveRoot_eq (hs : g.SameFrom g' root) (hg : g.Steady) (hg' : g'.Steady) :
    g'.resolveRoot root = g.resolveRoot root := by
  cases h : g.resolveRoot root with
  | some out => exact resolveRoot_of_same h hg hs
  | none =>
    -- a result of the other graph would be one of this graph too
    cases h' : g'.resolveRoot root with
    | none => rfl
    | some out =>
      have hback := resolveRoot_of_same h' hg' hs.symm
      rw [h] at hback
      cases hback

/-! ## What is declared stays as it is -/

/-- What a registry holds is declared, just so, by configurations that can be reached. -/
structure Declared (g : ImportGraph) (root : ImportNode) (r : Registry) : Prop where
  vars : ∀ k v, r.vars.get? k = some v → ∃ n, g.Reach root n ∧ n.raw.vars.get? k = some v
  prompts : ∀ p ∈ r.prompts, ∃ n, g.Reach root n ∧ p ∈ n.raw.prompts
  tools : ∀ t ∈ r.tools, ∃ n, g.Reach root n ∧ t ∈ n.raw.tools

namespace Declared

theorem empty : g.Declared root .empty :=
  ⟨nofun, fun _ h => absurd h List.not_mem_nil, fun _ h => absurd h List.not_mem_nil⟩

theorem own (hn : g.Reach root n) : g.Declared root (g.own n) where
  vars _ _ h := ⟨n, hn, h⟩
  prompts _ h := ⟨n, hn, (mem_of_mem_upsertAll h).resolve_left List.not_mem_nil⟩
  tools _ h := ⟨n, hn, (mem_of_mem_upsertAll h).resolve_left List.not_mem_nil⟩

theorem absorb (h : g.Declared root r) (hsub : g.Declared root sub) :
    g.Declared root (r.absorb sub) where
  vars k v hv := by
    have hor : (sub.vars.get? k).or (r.vars.get? k) = some v :=
      (SortedMap.get?_merge r.vars sub.vars k).symm.trans hv
    rcases Option.or_eq_some_iff.1 hor with hv | ⟨-, hv⟩
    · exact hsub.vars k v hv
    · exact h.vars k v hv
  prompts p hp := (mem_of_mem_upsertAll hp).elim (h.prompts p) (hsub.prompts p)
  tools t ht := (mem_of_mem_upsertAll ht).elim (h.tools t) (hsub.tools t)

theorem fold (hacc : g.Declared root acc) (hsub : g.Declared root sub) (t : ConfigPlace)
    (d : ImportDirective) : g.Declared root (foldTarget acc sub t d) := by
  have hselect : g.Declared root (sub.select d) :=
    ⟨hsub.vars, fun p hp => hsub.prompts p (List.mem_filter.1 hp).1,
      fun t ht => hsub.tools t (List.mem_filter.1 ht).1⟩
  have hacc' : g.Declared root { acc with imports := addNew id acc.imports t.id } :=
    ⟨hacc.vars, hacc.prompts, hacc.tools⟩
  exact hacc'.absorb hselect

end Declared

/-- A run puts together only what is declared. -/
theorem Folds.declared (h : g.Folds n branch arcs acc s acc' s') (hg : g.Steady)
    (hu : g.Underway root n branch arcs) (hacc : g.Declared root acc)
    (hs : ∀ x r, s.resolved.get? x = some r → g.Declared root r) :
    g.Declared root acc' ∧ ∀ x r, s'.resolved.get? x = some r → g.Declared root r := by
  induction h with
  | done => exact ⟨hacc, hs⟩
  | stray _ ih => exact ih hu.rest hacc hs
  | cycle _ _ ih => exact ih hu.rest hacc hs
  | known _ hk _ ih => exact ih hu.rest (hacc.fold (hs _ _ hk) _ _) hs
  | failed _ _ hl _ ih =>
    exact ih hu.rest hacc fun x r hx => hs x r ((ask_error hl).2.1 ▸ hx)
  | @loaded n child _ _ _ _ imported _ s _ s₂ _ hb _ hl _ _ ih ih' =>
    have hchild := hu.child hb (hg.answer_ok hl)
    obtain ⟨himported, hs₂⟩ := ih hchild .empty fun x r hx => hs x r ((ask_ok hl).2.1 ▸ hx)
    have hkept := himported.absorb (.own hchild.reach)
    refine ih' hu.rest (hacc.fold hkept _ _) ?_
    -- what is kept now is the child, or was kept when its imports were through
    intro x r hx
    by_cases e : x = child.id
    · subst e
      cases (SortedMap.get?_insert_self _ _ _).symm.trans hx
      exact hkept
    · exact hs₂ x r ((SortedMap.get?_insert_of_ne _ _ e).symm.trans hx)

end ImportGraph

/-! ## Environments -/

namespace ImportDirective

/-- The texts of a directive that are filled with values of the environment: where it leads, and
the values of its headers. -/
def envTexts (d : ImportDirective) : List String :=
  (match d.target with
    | .file path => path
    | .url url => url) :: d.headers.entries.map Prod.snd

/-- The keys of the environment that a directive refers to. -/
def envKeys (d : ImportDirective) : List String := d.envTexts.flatMap TokenForm.dollar.keys

end ImportDirective

namespace ImportWorld

variable {w : ImportWorld} {root : ImportNode} {env : Scope} {d : ImportDirective}
  {place : ConfigPlace} {text : String}

/-- The same world with another environment. -/
def withEnv (w : ImportWorld) (env : Scope) : ImportWorld := { w with env := env }

/-- Another environment says the same of the keys in the directives of all configurations that can
be reached. -/
def EnvAgrees (w : ImportWorld) (env : Scope) (root : ImportNode) : Prop :=
  ∀ n, w.graph.Reach root n → ∀ d ∈ n.raw.imports, ∀ key ∈ d.envKeys,
    env.get? key = w.env.get? key

theorem substituteEnv_eq (h : ∀ key ∈ d.envKeys, env.get? key = w.env.get? key)
    (ht : text ∈ d.envTexts) : env.substituteEnv text = w.env.substituteEnv text :=
  Scope.fillTokens_congr fun key hkey => h key (List.mem_flatMap.2 ⟨text, ht, hkey⟩)

theorem targets_withEnv (h : ∀ key ∈ d.envKeys, env.get? key = w.env.get? key) :
    (w.withEnv env).targets place d = w.targets place d := by
  cases htarget : d.target with
  | url text =>
    have hmem : text ∈ d.envTexts := by
      rw [ImportDirective.envTexts, htarget]
      exact List.mem_cons_self
    simp only [targets, htarget]
    rw [show (w.withEnv env).env.substituteEnv text = _ from substituteEnv_eq h hmem]
  | file text =>
    have hmem : text ∈ d.envTexts := by
      rw [ImportDirective.envTexts, htarget]
      exact List.mem_cons_self
    simp only [targets, htarget]
    rw [show (w.withEnv env).env.substituteEnv text = _ from substituteEnv_eq h hmem]
    rfl

theorem load_withEnv (h : ∀ key ∈ d.envKeys, env.get? key = w.env.get? key) :
    (w.withEnv env).load place d = w.load place d := by
  have hheaders : (w.withEnv env).headers d = w.headers d := by
    refine List.map_congr_left fun e he => ?_
    exact congrArg (Prod.mk e.1)
      (substituteEnv_eq h (List.mem_cons_of_mem _ (List.mem_map_of_mem he)))
  unfold load
  rw [hheaders]
  rfl

/-- The graphs of two worlds whose environments agree are alike. -/
theorem EnvAgrees.sameFrom (h : w.EnvAgrees env root) :
    w.graph.SameFrom (w.withEnv env).graph root where
  targets n hn d hd := targets_withEnv (h n hn d hd)
  load d t hd := by
    obtain ⟨n, hn, hd⟩ := hd
    exact load_withEnv (h n hn d (ImportGraph.mem_arcs_ok.1 hd).1)
  baseDir := rfl

/-- A root amounts to the same, with the same warnings, where the environments agree. -/
theorem EnvAgrees.resolve_eq (h : w.EnvAgrees env root) :
    (w.withEnv env).resolve root = w.resolve root := by
  rw [resolve, resolve, h.sameFrom.resolveRoot_eq (steady w) (steady _), h.sameFrom.own_eq]

end ImportWorld

end ContextCompiler
