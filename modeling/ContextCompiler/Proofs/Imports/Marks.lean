import ContextCompiler.Proofs.Imports.Documents
import ContextCompiler.Proofs.Imports.Tours
import ContextCompiler.Proofs.Registry.Marks

/-!
Graphs whose documents tell where they have come from.

In a marked graph every configuration declares one document, and every directive puts the mark of
its configuration in front. Resolved afresh, a configuration then has a document for each of its
tours. What is kept has been put together off one branch only (`Built`). So where keeping results
does not change the documents of the root, what is kept has all tours off every way, and the graph
is coherent.
-/

namespace ContextCompiler

namespace ImportGraph

variable {g : ImportGraph} {n m k root : ImportNode} {branch : List String}
  {arcs rest : List ImportArc} {acc acc' r sub : Registry} {s s' : ResolverState}
  {number : String → Nat} {d : ImportDirective} {ds : List ImportDirective} {t : ConfigPlace}
  {raw : Declarations} {ids : List String} {o : DocumentOrigin} {out path x : String}

/-! ## Definitions -/

/-- A configuration with one document, under its mark, whose directives have the mark as their
prefix and take all documents along. -/
structure Marked (number : String → Nat) (n : ImportNode) : Prop where
  documents : ∃ doc, n.raw.documents = [doc] ∧ doc.outputPath = trail number [n.id]
  directives : ∀ d ∈ n.raw.imports, d.pathPrefix = some (trail number [n.id]) ∧ d.docs = none

/-- Of some imports of a configuration, one leads to `m`. -/
def ImportsBy (g : ImportGraph) (arcs : List ImportArc) (m : ImportNode) : Prop :=
  ∃ d, .ok (d, m.place) ∈ arcs ∧ g.answer m.place d = .ok m.raw

/-- Some imports of `n` off a branch are kept, and `acc'` has the documents of `acc` and, under the
mark of `n`, theirs. -/
structure Gathers (g : ImportGraph) (number : String → Nat) (n : ImportNode) (branch : List String)
    (arcs : List ImportArc) (s : ResolverState) (acc acc' : Registry) : Prop where
  keeps : ∀ m, g.ImportsBy arcs m → m.id ∉ branch → s.Keeps m.id
  mem : ∀ o out, (o, out) ∈ acc'.documentKeys ↔ (o, out) ∈ acc.documentKeys ∨
    ∃ m sub path, g.ImportsBy arcs m ∧ m.id ∉ branch ∧ s.resolved.get? m.id = some sub ∧
      (o, path) ∈ sub.documentKeys ∧ prefixOutputPath (trail number [n.id]) path = out

/-- What `n` amounts to has been put together off some branch. -/
def Built (g : ImportGraph) (number : String → Nat) (s : ResolverState) (n : ImportNode)
    (r : Registry) : Prop :=
  ∃ branch, g.Gathers number n branch (g.arcs n) s (g.own n) r

/-- What is kept has been put together from what is kept, and its documents have trails that start
with the configuration. -/
structure Told (g : ImportGraph) (root : ImportNode) (number : String → Nat) (s : ResolverState) :
    Prop where
  built : ∀ x r, s.resolved.get? x = some r → ∃ n, g.Reach root n ∧ n.id = x ∧ g.Built number s n r
  trails : ∀ x r, s.resolved.get? x = some r → ∀ o out, (o, out) ∈ r.documentKeys →
    ∃ ids, out = trail number (x :: ids)

/-! ## Marked configurations -/

namespace Marked

theorem mem_documentKeys_own (h : Marked number n) :
    (o, out) ∈ (g.own n).documentKeys ↔ o = ⟨n.id, 0⟩ ∧ out = trail number [n.id] := by
  obtain ⟨⟨doc, hdocs, hdoc⟩, -⟩ := h
  obtain ⟨config, index⟩ := o
  rw [own, Registry.mem_documentKeys_ofDeclarations, hdocs]
  constructor
  · rintro ⟨rfl, doc', hget, rfl⟩
    obtain ⟨hi, rfl⟩ := List.getElem?_eq_some_iff.1 hget
    obtain rfl : index = 0 := Nat.lt_one_iff.1 hi
    exact ⟨rfl, hdoc⟩
  · rintro ⟨e, rfl⟩
    cases e
    exact ⟨rfl, doc, rfl, hdoc⟩

theorem output (h : Marked number n) (hd : d ∈ n.raw.imports) (path : String) :
    d.output path = prefixOutputPath (trail number [n.id]) path := by
  rw [ImportDirective.output, (h.directives d hd).1]

theorem admits (h : Marked number n) (hd : d ∈ n.raw.imports) (path : String) : d.Admits path := by
  rw [ImportDirective.Admits, (h.directives d hd).2]
  exact nofun

end Marked

/-! ## Documents of tours -/

namespace Gathers

theorem nil : g.Gathers number n branch [] s acc acc := by
  constructor
  · rintro m ⟨d, hd, -⟩
    exact absurd hd List.not_mem_nil
  · intro o out
    constructor
    · exact .inl
    · rintro (h | ⟨m, -, -, ⟨d, hd, -⟩, -⟩)
      · exact h
      · exact absurd hd List.not_mem_nil

/-- An import that is not taken adds nothing. -/
theorem skip {a : ImportArc} (h : g.Gathers number n branch rest s acc acc')
    (ha : ∀ d t raw, a = .ok (d, t) → t.id ∉ branch → g.answer t d ≠ .ok raw) :
    g.Gathers number n branch (a :: rest) s acc acc' := by
  have hrest : ∀ m, m.id ∉ branch → (g.ImportsBy (a :: rest) m ↔ g.ImportsBy rest m) := by
    intro m hb
    constructor
    · rintro ⟨d, hd, hans⟩
      rcases List.mem_cons.1 hd with e | hd
      · exact absurd hans (ha d m.place m.raw e.symm hb)
      · exact ⟨d, hd, hans⟩
    · rintro ⟨d, hd, hans⟩
      exact ⟨d, List.mem_cons_of_mem _ hd, hans⟩
  refine ⟨fun m hi hb => h.keeps m ((hrest m hb).1 hi) hb, fun o out => (h.mem o out).trans ?_⟩
  refine or_congr_right (exists_congr fun m => exists_congr fun sub => exists_congr fun path => ?_)
  constructor
  · rintro ⟨hi, hb, hrest'⟩
    exact ⟨(hrest m hb).2 hi, hb, hrest'⟩
  · rintro ⟨hi, hb, hrest'⟩
    exact ⟨(hrest m hb).1 hi, hb, hrest'⟩

/-- An import whose target is kept adds the documents of the target under the mark. -/
theorem take (h : g.Gathers number n branch rest s (foldTarget acc sub t d) acc')
    (hm : Marked number n) (hd : d ∈ n.raw.imports) (hb : t.id ∉ branch)
    (hans : g.answer t d = .ok raw) (hs : s.resolved.get? t.id = some sub) :
    g.Gathers number n branch (.ok (d, t) :: rest) s acc acc' := by
  constructor
  · rintro m ⟨d', hd', hans'⟩ hmb
    rcases List.mem_cons.1 hd' with e | hd'
    · cases e
      exact ⟨sub, hs⟩
    · exact h.keeps m ⟨d', hd', hans'⟩ hmb
  · intro o out
    rw [h.mem, mem_documentKeys_foldTarget]
    constructor
    · rintro ((hacc | ⟨path, hp, hout, -⟩) | ⟨m, q, path, ⟨d', hd', hans'⟩, hrest⟩)
      · exact .inl hacc
      · rw [hm.output hd] at hout
        exact .inr ⟨⟨t, raw⟩, sub, path, ⟨d, List.mem_cons_self, hans⟩, hb, hs, hp, hout⟩
      · exact .inr ⟨m, q, path, ⟨d', List.mem_cons_of_mem _ hd', hans'⟩, hrest⟩
    · rintro (hacc | ⟨m, q, path, ⟨d', hd', hans'⟩, hmb, hq, hp, hout⟩)
      · exact .inl (.inl hacc)
      · rcases List.mem_cons.1 hd' with e | hd'
        · cases e
          cases hs.symm.trans hq
          exact .inl (.inr ⟨path, hp, (hm.output hd path).trans hout, hm.admits hd out⟩)
        · exact .inr ⟨m, q, path, ⟨d', hd', hans'⟩, hmb, hq, hp, hout⟩

theorem grow (h : g.Gathers number n branch arcs s acc acc')
    (hs : ∀ x r, s.resolved.get? x = some r → s'.resolved.get? x = some r) :
    g.Gathers number n branch arcs s' acc acc' := by
  refine ⟨fun m hi hb => (h.keeps m hi hb).imp (hs m.id), fun o out => (h.mem o out).trans ?_⟩
  refine or_congr_right (exists_congr fun m => exists_congr fun sub => exists_congr fun path => ?_)
  refine and_congr_right fun hi => and_congr_right fun hb => and_congr_left fun _ => ?_
  obtain ⟨q, hq⟩ := h.keeps m hi hb
  rw [hq, hs _ _ hq]

/-- What a configuration declares itself goes with what its imports gather. -/
theorem built (h : g.Gathers number n branch (g.arcs n) s .empty r) :
    g.Built number s n (r.absorb (g.own n)) := by
  refine ⟨branch, h.keeps, fun o out => ?_⟩
  rw [Registry.mem_documentKeys_absorb, h.mem, Registry.documentKeys_empty,
    or_iff_right List.not_mem_nil, or_comm]

end Gathers

namespace Told

theorem start : g.Told root number .start := ⟨nofun, nofun⟩

theorem of_eq (h : g.Told root number s) (hr : s'.resolved = s.resolved) :
    g.Told root number s' := by
  refine ⟨fun x r hx => ?_, fun x r hx => h.trails x r (hr ▸ hx)⟩
  obtain ⟨n, hn, hid, branch, hbuilt⟩ := h.built x r (hr ▸ hx)
  exact ⟨n, hn, hid, branch, hbuilt.grow fun y q hy => hr ▸ hy⟩

theorem keep (h : g.Told root number s) (hn : g.Reach root n) (hm : Marked number n)
    (hs : s.resolved.get? n.id = none) (hr : g.Built number s n r) :
    g.Told root number (s.keep n.id r) := by
  have hgrows := (ResolverState.Grows.keep hs r).resolved
  constructor
  · intro x q hx
    by_cases e : x = n.id
    · subst e
      cases (SortedMap.get?_insert_self _ _ _).symm.trans hx
      obtain ⟨branch, hr⟩ := hr
      exact ⟨n, hn, rfl, branch, hr.grow hgrows⟩
    · obtain ⟨m, hm, hid, branch, hq⟩ :=
        h.built x q ((SortedMap.get?_insert_of_ne _ _ e).symm.trans hx)
      exact ⟨m, hm, hid, branch, hq.grow hgrows⟩
  · intro x q hx o out ho
    by_cases e : x = n.id
    · subst e
      cases (SortedMap.get?_insert_self _ _ _).symm.trans hx
      obtain ⟨branch, hr⟩ := hr
      rcases (hr.mem o out).1 ho with hown | ⟨m, sub, path, -, -, hsub, hp, rfl⟩
      · exact ⟨[], (hm.mem_documentKeys_own.1 hown).2⟩
      · obtain ⟨ids, rfl⟩ := h.trails _ _ hsub o path hp
        exact ⟨m.id :: ids, prefixOutputPath_trail⟩
    · exact h.trails x q ((SortedMap.get?_insert_of_ne _ _ e).symm.trans hx) o out ho

end Told

end ImportGraph

end ContextCompiler
