import Mathlib.Logic.Basic
import ContextCompiler.Regex.Basic

/-!
What the rounds of a repetition reach.

The rounds are walked through with a memory of the places from which a round was taken, so that no
place is gone on from twice. Nothing is lost by that: from a place in the memory all is listed that
can be reached, unless the walk is still under way there, and a place that is under way lies before
all that are reached from it. Groups play no part in where the rounds lead, so spots are compared
without them.
-/

namespace ContextCompiler

namespace Spot

variable {o p q q' m : Spot}

/-! ## Spots ahead -/

/-- A spot without what groups have matched. -/
def bare (p : Spot) : Spot := { p with groups := [] }

/-- A bare spot is among some spots, with whatever groups. -/
def Has (ps : List Spot) (q : Spot) : Prop := ∃ q' ∈ ps, q'.bare = q

theorem exists_bare_iff {ps : List Spot} {K : Spot → Prop} :
    (∃ p ∈ ps, K p.bare) ↔ ∃ q, Has ps q ∧ K q := by
  constructor
  · rintro ⟨p, hp, hK⟩
    exact ⟨p.bare, ⟨p, hp, rfl⟩, hK⟩
  · rintro ⟨_, ⟨p, hp, rfl⟩, hK⟩
    exact ⟨p, hp, hK⟩

/-- `q` is the bare spot behind some of the characters that follow `p`. -/
def Ahead (p q : Spot) : Prop :=
  ∃ front rest, p.rest = front ++ rest ∧
    q = ⟨p.pos + front.length, front.getLast?.or p.before, rest, []⟩

theorem ahead_bare (p : Spot) : p.Ahead p.bare := ⟨[], p.rest, rfl, rfl⟩

theorem Ahead.bare_eq (h : p.Ahead q) : q.bare = q := by
  obtain ⟨_, _, -, rfl⟩ := h
  rfl

theorem Ahead.trans (h : p.Ahead m) (h' : m.Ahead q) : p.Ahead q := by
  obtain ⟨front, rest, hrest, rfl⟩ := h
  obtain ⟨front', rest', hrest', rfl⟩ := h'
  refine ⟨front ++ front', rest', by rw [hrest, List.append_assoc, ← hrest'], ?_⟩
  rw [List.length_append, Nat.add_assoc, List.getLast?_append, Option.or_assoc]

theorem Ahead.pos_le (h : p.Ahead q) : p.pos ≤ q.pos := by
  obtain ⟨_, _, -, rfl⟩ := h
  exact Nat.le_add_right _ _

/-- What is further on has less left. -/
theorem Ahead.length_add (h : p.Ahead q) : q.rest.length + q.pos = p.rest.length + p.pos := by
  obtain ⟨front, rest, hrest, rfl⟩ := h
  rw [hrest, List.length_append]
  show rest.length + (p.pos + front.length) = _
  omega

/-- What is ahead is right here, or ahead of the next spot. -/
theorem ahead_cons_iff {pos : Nat} {before : Option Char} {c : Char} {s : List Char} :
    Ahead ⟨pos, before, c :: s, []⟩ q ↔
      q = ⟨pos, before, c :: s, []⟩ ∨ Ahead ⟨pos + 1, some c, s, []⟩ q := by
  constructor
  · rintro ⟨front, rest, hrest, rfl⟩
    cases front with
    | nil =>
      cases hrest
      exact .inl rfl
    | cons d front =>
      cases hrest
      refine .inr ⟨front, rest, rfl, ?_⟩
      have hlast : (c :: front).getLast?.or before = front.getLast?.or (some c) := by
        rw [List.getLast?_cons]
        cases front.getLast? <;> rfl
      rw [hlast, List.length_cons, Nat.add_comm front.length, ← Nat.add_assoc]
  · rintro (rfl | h)
    · exact ahead_bare _
    · exact Ahead.trans ⟨[c], s, rfl, rfl⟩ h

/-- Places ahead of one spot are told apart by how far they are. -/
theorem Ahead.eq_of_pos (h : p.Ahead q) (h' : p.Ahead q') (hpos : q.pos = q'.pos) : q = q' := by
  obtain ⟨front, rest, hrest, rfl⟩ := h
  obtain ⟨front', rest', hrest', rfl⟩ := h'
  have hlength : front.length = front'.length := Nat.add_left_cancel hpos
  obtain ⟨rfl, rfl⟩ := List.append_inj (hrest.symm.trans hrest') hlength
  rfl

/-! ## Turns -/

/-- `n` steps of a relation. -/
def Turns (R : Spot → Spot → Prop) : Nat → Spot → Spot → Prop
  | 0, p, q => q = p
  | n + 1, p, q => ∃ m, R p m ∧ Turns R n m q

variable {R : Spot → Spot → Prop} {k n : Nat}

theorem turns_one : Turns R 1 p q ↔ R p q := by
  constructor
  · rintro ⟨m, hm, rfl⟩
    exact hm
  · exact fun h => ⟨q, h, rfl⟩

theorem turns_add : Turns R (k + n) p q ↔ ∃ m, Turns R k p m ∧ Turns R n m q := by
  induction k generalizing p with
  | zero =>
    rw [Nat.zero_add]
    exact ⟨fun h => ⟨p, rfl, h⟩, fun ⟨_, hm, h⟩ => hm ▸ h⟩
  | succ k ih =>
    rw [Nat.succ_add]
    constructor
    · rintro ⟨x, hx, h⟩
      obtain ⟨m, hm, h⟩ := ih.1 h
      exact ⟨m, ⟨x, hx, hm⟩, h⟩
    · rintro ⟨m, ⟨x, hx, hm⟩, h⟩
      exact ⟨x, hx, ih.2 ⟨m, hm, h⟩⟩

/-- Turns that do not move at the start can be left out. -/
theorem exists_turns_iff : (∃ n, Turns R (n + 1) p q) ↔
    R p q ∨ ∃ m, R p m ∧ m ≠ p ∧ ∃ n, Turns R (n + 1) m q := by
  constructor
  · rintro ⟨n, h⟩
    induction n with
    | zero => exact .inl (turns_one.1 h)
    | succ n ih =>
      obtain ⟨m, hm, h⟩ := h
      by_cases hmove : m = p
      · exact ih (hmove ▸ h)
      · exact .inr ⟨m, hm, hmove, n, h⟩
  · rintro (h | ⟨m, hm, -, n, h⟩)
    · exact ⟨0, turns_one.2 h⟩
    · exact ⟨n + 1, m, hm, h⟩

theorem exists_turns_le_succ : (∃ k ≤ n + 1, Turns R k p q) ↔
    (∃ k ≤ n, Turns R (k + 1) p q) ∨ q = p := by
  constructor
  · rintro ⟨k, hk, h⟩
    cases k with
    | zero => exact .inr h
    | succ k => exact .inl ⟨k, Nat.le_of_succ_le_succ hk, h⟩
  · rintro (⟨k, hk, h⟩ | h)
    · exact ⟨k + 1, Nat.succ_le_succ hk, h⟩
    · exact ⟨0, Nat.zero_le _, h⟩

/-- Steps that lead where a relation says, whatever groups have matched. -/
structure Follows (step : Spot → List Spot) (R : Spot → Spot → Prop) : Prop where
  has_iff : ∀ p q, Has (step p) q ↔ R p.bare q
  ahead : ∀ p q : Spot, R p.bare q → p.Ahead q

variable {step : Spot → List Spot}

theorem Follows.ahead_of_mem (h : Follows step R) (hq : q ∈ step p) : p.Ahead q.bare :=
  h.ahead p q.bare ((h.has_iff p q.bare).1 ⟨q, hq, rfl⟩)

theorem Follows.exists_mem_iff (h : Follows step R) {K : Spot → Prop} :
    (∃ q ∈ step p, K q.bare) ↔ ∃ m, R p.bare m ∧ K m := by
  simp only [exists_bare_iff, h.has_iff]

end Spot

namespace Rounds

open Spot

variable {o p q x : Spot} {w w' w'' : Rounds} {n k : Nat} {ps : List Spot}

/-! ## What is listed -/

/-- What a walk from `o` has listed is ahead of it, and the places of it are known. -/
structure IsKept (o : Spot) (w : Rounds) : Prop where
  listed : ∀ k, k ∈ w.listed ↔ ∃ q ∈ w.found, q.pos = k
  ahead : ∀ q ∈ w.found, o.Ahead q.bare

theorem isKept_empty (o : Spot) : IsKept o {} :=
  ⟨fun k => by simp, fun _ h => absurd h List.not_mem_nil⟩

theorem IsKept.list (hw : IsKept o w) (hp : o.Ahead p.bare) :
    IsKept o (w.list p) ∧ ∀ q, Has (w.list p).found q ↔ Has w.found q ∨ q = p.bare := by
  unfold Rounds.list
  split
  · next hlisted =>
    refine ⟨hw, fun q => ⟨.inl, ?_⟩⟩
    rintro (h | rfl)
    · exact h
    · obtain ⟨q', hq', hpos⟩ := (hw.listed _).1 (Std.HashSet.mem_iff_contains.2 hlisted)
      exact ⟨q', hq', (hw.ahead q' hq').eq_of_pos hp hpos⟩
  · refine ⟨⟨fun k => ?_, ?_⟩, fun q => ?_⟩
    · rw [Std.HashSet.mem_insert, beq_iff_eq, hw.listed]
      simp
    · exact List.forall_mem_cons.2 ⟨hp, hw.ahead⟩
    · constructor
      · rintro ⟨q', hq', rfl⟩
        rcases List.mem_cons.1 hq' with rfl | hq'
        · exact .inr rfl
        · exact .inl ⟨q', hq', rfl⟩
      · rintro (⟨q', hq', rfl⟩ | rfl)
        · exact ⟨q', List.mem_cons_of_mem _ hq', rfl⟩
        · exact ⟨p, List.mem_cons_self, rfl⟩

theorem taken_list (w : Rounds) (p : Spot) : (w.list p).taken = w.taken := by
  unfold Rounds.list
  split <;> rfl

/-! ## Walks -/

/-- A walk from `o` that is under way at some places: from the other places of its memory all is
listed that `D` has to be, given the number of rounds beside the place. -/
structure Covers (o : Spot) (D : Nat → Spot → Spot → Prop) (under : Nat → Nat → Prop)
    (w : Rounds) : Prop extends IsKept o w where
  closed : ∀ n p, o.Ahead p → (n, p.pos) ∈ w.taken → ¬ under n p.pos → ∀ q, D n p q → Has w.found q

/-- A walk goes on from `w` to `w'`, and lists what `G` says besides. -/
def Adds (o : Spot) (D : Nat → Spot → Spot → Prop) (under : Nat → Nat → Prop) (G : Spot → Prop)
    (w w' : Rounds) : Prop :=
  Covers o D under w → Covers o D under w' ∧ ∀ q, Has w'.found q ↔ Has w.found q ∨ G q

variable {D : Nat → Spot → Spot → Prop} {under : Nat → Nat → Prop} {G G' : Spot → Prop}

theorem Adds.congr (h : Adds o D under G w w') (hG : ∀ q, G q ↔ G' q) :
    Adds o D under G' w w' := by
  intro hw
  obtain ⟨hw', hlists⟩ := h hw
  exact ⟨hw', fun q => by rw [hlists, hG]⟩

theorem Adds.trans (h : Adds o D under G w w') (h' : Adds o D under G' w' w'') :
    Adds o D under (fun q => G q ∨ G' q) w w'' := by
  intro hw
  obtain ⟨hw', hlists⟩ := h hw
  obtain ⟨hw'', hlists'⟩ := h' hw'
  exact ⟨hw'', fun q => by rw [hlists', hlists, or_assoc]⟩

/-- What is listed already need not be added. -/
theorem Adds.of_lists (h : Adds o D under G w w') (hG' : ∀ q, G' q → Has w.found q) :
    Adds o D under (fun q => G q ∨ G' q) w w' := by
  intro hw
  obtain ⟨hw', hlists⟩ := h hw
  refine ⟨hw', fun q => ?_⟩
  rw [hlists, ← or_assoc]
  exact ⟨.inl, fun h => h.elim id fun hq => .inl (hG' q hq)⟩

theorem adds_list (hp : o.Ahead p.bare) : Adds o D under (· = p.bare) w (w.list p) := by
  intro hw
  obtain ⟨hkept, hlists⟩ := hw.toIsKept.list hp
  refine ⟨⟨hkept, fun n x hx htaken hunder q hq => ?_⟩, hlists⟩
  rw [taken_list] at htaken
  exact (hlists q).2 (.inl (hw.closed n x hx htaken hunder q hq))

theorem adds_foldl {f : Rounds → Spot → Rounds} {G : Spot → Spot → Prop}
    (h : ∀ p ∈ ps, ∀ w, Adds o D under (G p) w (f w p)) (w : Rounds) :
    Adds o D under (fun q => ∃ p ∈ ps, G p q) w (ps.foldl f w) := by
  induction ps generalizing w with
  | nil => exact fun hw => ⟨hw, fun q => by simp⟩
  | cons p ps ih =>
    obtain ⟨hp, hps⟩ := List.forall_mem_cons.1 h
    exact ((hp w).trans (ih hps _)).congr fun q => by simp

/-- A place in the memory that the walk is not under way at has nothing to add. -/
theorem adds_of_taken (hp : o.Ahead p.bare) (htaken : (n, p.pos) ∈ w.taken)
    (hunder : ¬ under n p.pos) : Adds o D under (D n p.bare) w w :=
  fun hw => ⟨hw, fun q => ⟨.inl, fun h => h.elim id (hw.closed n _ hp htaken hunder q)⟩⟩

/-- While a place is gone on from, the walk is under way there. -/
theorem adds_of_insert (hp : o.Ahead p.bare)
    (h : Adds o D (fun k i => under k i ∨ k = n ∧ i = p.pos) (D n p.bare)
      { w with taken := w.taken.insert (n, p.pos) } w') :
    Adds o D under (D n p.bare) w w' := by
  intro hw
  have hw₁ : Covers o D (fun k i => under k i ∨ k = n ∧ i = p.pos)
      { w with taken := w.taken.insert (n, p.pos) } := by
    refine ⟨⟨hw.listed, hw.ahead⟩, fun k x hx htaken hunder q hq => ?_⟩
    rw [not_or] at hunder
    rcases Std.HashSet.mem_insert.1 htaken with heq | htaken
    · obtain ⟨rfl, hpos⟩ := Prod.mk.inj (beq_iff_eq.1 heq)
      exact absurd ⟨rfl, hpos.symm⟩ hunder.2
    · exact hw.closed k x hx htaken hunder.1 q hq
  obtain ⟨hw', hlists⟩ := h hw₁
  refine ⟨⟨hw'.toIsKept, fun k x hx htaken hunder q hq => ?_⟩, hlists⟩
  by_cases hkey : k = n ∧ x.pos = p.pos
  · obtain ⟨rfl, hpos⟩ := hkey
    rw [hx.eq_of_pos hp hpos] at hq
    exact (hlists q).2 (.inr hq)
  · exact hw'.closed k x hx htaken (not_or.2 ⟨hunder, hkey⟩) q hq

/-! ## Rounds without a limit -/

variable {step : Spot → List Spot} {R : Spot → Spot → Prop} {greedy : Bool} {fuel : Nat}

/-- Greedy or not, the rounds from a place that a round leads to are walked, and it is listed. -/
theorem adds_goOn {w₁ : Rounds → Rounds} (hp : o.Ahead p.bare)
    (h : ∀ w, Adds o D under G w (w₁ w)) :
    Adds o D under (fun q => q = p.bare ∨ G q) w
      (if greedy then (w₁ w).list p else w₁ (w.list p)) := by
  split
  · exact ((h w).trans (adds_list hp)).congr fun q => or_comm
  · exact (adds_list hp).trans (h _)

theorem adds_walk (hstep : Follows step R) (hfuel : p.rest.length < fuel) (hp : o.Ahead p.bare)
    (hunder : ∀ n k, under n k → k < p.pos) :
    Adds o (fun _ x q => ∃ n, Turns R (n + 1) x q) under (fun q => ∃ n, Turns R (n + 1) p.bare q)
      w (walk step greedy fuel p w) := by
  induction fuel generalizing p w under with
  | zero => cases hfuel
  | succ fuel ih =>
    rw [walk]
    split
    · next htaken =>
      exact adds_of_taken (n := 0) hp htaken fun h => Nat.lt_irrefl _ (hunder _ _ h)
    · refine adds_of_insert (n := 0) hp ?_
      refine (adds_foldl (G := fun q x => x = q.bare ∨
        q.bare ≠ p.bare ∧ ∃ n, Turns R (n + 1) q.bare x) (fun q hq w => ?_) _).congr fun x => ?_
      · have hahead := hstep.ahead_of_mem hq
        split
        · next hpos =>
          have heq := hahead.eq_of_pos p.ahead_bare (beq_iff_eq.1 hpos)
          exact (adds_list (hp.trans hahead)).congr fun x => by simp [heq]
        · next hpos =>
          have hmoved : p.pos < q.pos :=
            Nat.lt_of_le_of_ne hahead.pos_le fun h => hpos (beq_iff_eq.2 h.symm)
          have hlength : q.rest.length + q.pos = p.rest.length + p.pos := hahead.length_add
          have hne : q.bare ≠ p.bare := fun heq => by
            have hpos : q.bare.pos = p.bare.pos := congrArg Spot.pos heq
            exact Nat.ne_of_gt hmoved hpos
          refine (adds_goOn (hp.trans hahead) fun w => ih (by omega) (hp.trans hahead) ?_).congr
            fun x => by simp [hne]
          rintro n k (h | ⟨-, rfl⟩)
          · exact Nat.lt_trans (hunder n k h) hmoved
          · exact hmoved
      · rw [hstep.exists_mem_iff (K := fun m => x = m ∨
          m ≠ p.bare ∧ ∃ n, Turns R (n + 1) m x), exists_turns_iff]
        simp only [and_or_left, exists_or, exists_eq_right']

/-! ## Rounds up to a limit -/

theorem adds_atMost (hstep : Follows step R) (hp : o.Ahead p.bare)
    (hunder : ∀ k i, under k i → n ≤ k) :
    Adds o (fun n x q => ∃ k ≤ n + 1, Turns R k x q) under (fun q => ∃ k ≤ n, Turns R k p.bare q)
      w (atMost step greedy n p w) := by
  induction n generalizing p w under with
  | zero =>
    refine (adds_list hp).congr fun q => ?_
    simp [Turns]
  | succ n ih =>
    rw [atMost]
    split
    · next htaken =>
      exact adds_of_taken hp htaken fun h => Nat.lt_irrefl _ (hunder _ _ h)
    · have hgoOn : ∀ w : Rounds, Adds o (fun n x q => ∃ k ≤ n + 1, Turns R k x q)
          (fun k i => under k i ∨ k = n ∧ i = p.pos) (fun q => ∃ k ≤ n, Turns R (k + 1) p.bare q) w
          ((step p).foldl (fun w q => atMost step greedy n q w) w) := fun w => by
        refine (adds_foldl (G := fun q x => ∃ k ≤ n, Turns R k q.bare x)
          (fun q hq w => ih ?_ ?_) w).congr fun x => ?_
        · have hahead : p.Ahead q.bare := hstep.ahead_of_mem hq
          exact hp.trans hahead
        · rintro k i (h | ⟨rfl, -⟩)
          · exact Nat.le_of_succ_le (hunder k i h)
          · exact Nat.le_refl _
        · rw [hstep.exists_mem_iff (K := fun m => ∃ k ≤ n, Turns R k m x)]
          constructor
          · rintro ⟨m, hm, k, hk, h⟩
            exact ⟨k, hk, m, hm, h⟩
          · rintro ⟨k, hk, m, hm, h⟩
            exact ⟨m, hm, k, hk, h⟩
      split
      · exact adds_of_insert hp
          (((hgoOn _).trans (adds_list hp)).congr fun q => exists_turns_le_succ.symm)
      · intro hw
        have hlisted : Has (w.list p).found p.bare := ((hw.toIsKept.list hp).2 _).2 (.inr rfl)
        have hrest := adds_of_insert (w := w.list p) hp (((hgoOn { w.list p with
          taken := (w.list p).taken.insert (n, p.pos) }).of_lists
            fun q (hq : q = p.bare) => hq ▸ hlisted).congr fun q => exists_turns_le_succ.symm)
        exact ((adds_list hp).trans hrest).congr (fun q => or_iff_right_of_imp
          fun h => ⟨0, Nat.zero_le _, h⟩) hw

end Rounds

end ContextCompiler
