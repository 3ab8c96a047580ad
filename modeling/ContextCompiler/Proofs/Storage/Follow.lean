import Mathlib.Data.Set.Finite.List
import Mathlib.Data.List.Infix
import ContextCompiler.Storage.Basic

/-!
Where paths lead.

`Follows` has one rule for each thing that can happen to the next piece of a path. It stays with
places that stand in the tree (`Near`), of which there are finitely many; and since a path leads
over finitely many links, and between two of them every name leads one level down, a path of names
alone that leads anywhere is not longer than the depth of the tree allows.
-/

namespace ContextCompiler

namespace Storage

variable {s : Storage} {last : Bool} {links depth : Nat} {pieces front names : List String}
  {p q : Place} {e : Entry} {path : String}

/-! ## Steps -/

/-- A name that leads down: neither empty nor one of the pieces that lead nowhere or up. -/
def IsName (piece : String) : Prop := piece ≠ "" ∧ piece ≠ "." ∧ piece ≠ ".."

/-- Following pieces of a path from `p` leads to `q`. -/
inductive Follows (s : Storage) (last : Bool) : Nat → List String → Place → Place → Prop
  | done {links : Nat} {p : Place} : Follows s last links [] p p
  | idle {links : Nat} {piece : String} {rest : List String} {p q : Place} :
      piece = "" ∨ piece = "." → Follows s last links rest p q →
      Follows s last links (piece :: rest) p q
  | up {links : Nat} {rest : List String} {p q : Place} :
      Follows s last links rest p.dropLast q → Follows s last links (".." :: rest) p q
  | stop {links : Nat} {piece : String} {p : Place} {e : Entry} :
      IsName piece → s.get? (p ++ [piece]) = some e → Follows s last links [piece] p (p ++ [piece])
  | link {links : Nat} {piece target : String} {rest : List String} {p q : Place} :
      IsName piece → s.get? (p ++ [piece]) = some (.link target) →
      Follows s last links (Text.split '/' target ++ rest)
        (if Path.isAbsolute target then [] else p) q →
      Follows s last (links + 1) (piece :: rest) p q
  | enter {links : Nat} {piece : String} {rest : List String} {p q : Place} {e : Entry} :
      IsName piece → s.get? (p ++ [piece]) = some e → Follows s last links rest (p ++ [piece]) q →
      Follows s last links (piece :: rest) p q

theorem isName_of_not {piece : String} (hidle : ¬ (piece == "" || piece == ".") = true)
    (hup : ¬ (piece == "..") = true) : IsName piece := by
  rw [Bool.or_eq_true, beq_iff_eq, beq_iff_eq, not_or] at hidle
  rw [beq_iff_eq] at hup
  exact ⟨hidle.1, hidle.2, hup⟩

/-- A place on the way to an entry of the tree or to the working directory. -/
def Near (s : Storage) (p : Place) : Prop :=
  p <+: s.workDir ∨ ∃ k e, (k, e) ∈ s.entries ∧ p <+: k

theorem near_nil : s.Near [] := .inl List.nil_prefix

theorem Near.of_prefix (h : s.Near p) (hq : q <+: p) : s.Near q := by
  rcases h with h | ⟨k, e, hk, h⟩
  · exact .inl (hq.trans h)
  · exact .inr ⟨k, e, hk, hq.trans h⟩

theorem get?_cases (h : s.get? p = some e) : p = [] ∧ e = .directory ∨ (p, e) ∈ s.entries := by
  unfold get? at h
  split at h
  · next hp =>
    cases h
    exact .inl ⟨List.isEmpty_iff.1 hp, rfl⟩
  · obtain ⟨before, after, hentries, -⟩ := List.lookup_eq_some_iff.1 h
    rw [hentries]
    exact .inr (List.mem_append_right _ List.mem_cons_self)

theorem near_of_get? (h : s.get? p = some e) : s.Near p := by
  rcases get?_cases h with ⟨rfl, -⟩ | h
  · exact near_nil
  · exact .inr ⟨p, e, h, List.prefix_rfl⟩

/-- Pieces that lead nowhere lead nowhere. -/
theorem Follows.eq_of_idle (h : s.Follows last links pieces p q)
    (hidle : ∀ n ∈ pieces, n = "" ∨ n = ".") : q = p := by
  induction h with
  | done => rfl
  | idle _ _ ih => exact ih fun n hn => hidle n (List.mem_cons_of_mem _ hn)
  | up => exact absurd (hidle ".." List.mem_cons_self) (by decide)
  | stop hname _ => exact absurd (hidle _ List.mem_cons_self) (not_or.2 ⟨hname.1, hname.2.1⟩)
  | link hname _ _ _ => exact absurd (hidle _ List.mem_cons_self) (not_or.2 ⟨hname.1, hname.2.1⟩)
  | enter hname _ _ _ => exact absurd (hidle _ List.mem_cons_self) (not_or.2 ⟨hname.1, hname.2.1⟩)

/-- Names lead on from places in the tree and are not too many for its depth. -/
structure Fits (s : Storage) (depth links : Nat) (front names : List String) (p : Place) :
    Prop where
  length : names.length ≤ depth + links * (depth + 1)
  down : front = [] → names.length + p.length ≤ depth + links * (depth + 1)
  mem : ∀ n ∈ names, ∃ p, s.Near p ∧ n ∈ p

/-- What fits does so behind pieces that a link has put in front. -/
theorem Fits.behind {piece : String} {q : Place} (h : s.Fits depth links front names q)
    (p : Place) : s.Fits depth links (piece :: front) names p :=
  ⟨h.length, nofun, h.mem⟩

theorem Fits.mem_cons {piece : String} {e : Entry} {q : Place}
    (h : s.Fits depth links front names q) (hget : s.get? (p ++ [piece]) = some e) :
    ∀ n ∈ piece :: names, ∃ p, s.Near p ∧ n ∈ p := by
  intro n hn
  rcases List.mem_cons.1 hn with rfl | hn
  · exact ⟨_, near_of_get? hget, by simp⟩
  · exact h.mem n hn

end Storage

end ContextCompiler
