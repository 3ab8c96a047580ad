import ContextCompiler.Proofs.Regex.Rounds

/-!
Where matches end.

An expression relates the spots between which it matches. The ends that are listed for a spot are
just those that it is related to, for any expression: a spot is left out of a list only where
another at the same place is listed, and a place is left out of a walk only where it adds nothing.
-/

namespace ContextCompiler

open Spot

namespace Spot

variable {o p q : Spot} {ps : List Spot} {step : Spot → List Spot} {R : Spot → Spot → Prop}
  {n : Nat} {greedy : Bool}

/-! ## Lists of spots -/

theorem has_singleton : Has [p] q ↔ q = p.bare := by
  simp [Has, eq_comm]

theorem not_has_nil : ¬ Has [] q := by
  simp [Has]

theorem has_append {qs : List Spot} : Has (ps ++ qs) q ↔ Has ps q ∨ Has qs q := by
  simp [Has, or_and_right, exists_or]

theorem has_reverse : Has ps.reverse q ↔ Has ps q := by
  simp [Has]

theorem has_flatMap : Has (ps.flatMap step) q ↔ ∃ p ∈ ps, Has (step p) q := by
  simp only [Has, List.mem_flatMap]
  constructor
  · rintro ⟨q', ⟨p, hp, hq⟩, heq⟩
    exact ⟨p, hp, q', hq, heq⟩
  · rintro ⟨p, hp, q', hq, heq⟩
    exact ⟨q', ⟨p, hp, hq⟩, heq⟩

/-- Only the places of spots tell where steps lead. -/
theorem Follows.has_flatMap (hstep : Follows step R) :
    Has (ps.flatMap step) q ↔ ∃ p, Has ps p ∧ R p q := by
  rw [Spot.has_flatMap, ← exists_bare_iff (K := fun p => R p q)]
  simp only [hstep.has_iff]

theorem covers_empty (o : Spot) (D : Nat → Spot → Spot → Prop) (under : Nat → Nat → Prop) :
    Rounds.Covers o D under {} :=
  ⟨Rounds.isKept_empty o, fun n p _ h => by simp at h⟩

theorem foldl_list (w : Rounds) :
    ps.foldl (fun (acc : Std.HashSet Nat × List Spot) p =>
      if acc.1.contains p.pos then acc else (acc.1.insert p.pos, p :: acc.2)) (w.listed, w.found) =
      ((ps.foldl Rounds.list w).listed, (ps.foldl Rounds.list w).found) := by
  induction ps generalizing w with
  | nil => rfl
  | cons p ps ih =>
    rw [List.foldl_cons, List.foldl_cons, ← ih]
    congr 1
    unfold Rounds.list
    dsimp only
    split <;> rfl

/-- Keeping the first of several spots at a place loses no place. -/
theorem has_distinct (hps : ∀ p ∈ ps, o.Ahead p.bare) : Has (distinct ps) q ↔ Has ps q := by
  unfold distinct
  split
  · rfl
  · rfl
  · have hfold := @foldl_list ps {}
    dsimp only at hfold ⊢
    rw [hfold, has_reverse]
    have hadds : Rounds.Adds o (fun _ _ _ => False) (fun _ _ => False)
        (fun q => ∃ p ∈ ps, q = p.bare) {} (ps.foldl Rounds.list {}) :=
      Rounds.adds_foldl (fun p hp w => Rounds.adds_list (hps p hp)) {}
    obtain ⟨-, hhas⟩ := hadds (covers_empty _ _ _)
    rw [hhas]
    simp [Has, eq_comm]

/-! ## Steps -/

variable {step' : Spot → List Spot} {R' : Spot → Spot → Prop} {k : Nat}

theorem Follows.congr (h : Follows step R) (hR : ∀ p q, R p q ↔ R' p q) : Follows step R' :=
  ⟨fun p q => by rw [h.has_iff, hR], fun p q hq => h.ahead p q ((hR _ _).2 hq)⟩

/-- One step and then another. -/
theorem Follows.seq (h : Follows step R) (h' : Follows step' R') :
    Follows (fun p => distinct ((step p).flatMap step')) fun p q => ∃ m, R p m ∧ R' m q := by
  constructor
  · intro p q
    have hahead : ∀ x ∈ (step p).flatMap step', p.Ahead x.bare := fun x hx => by
      obtain ⟨m, hm, hx⟩ := List.mem_flatMap.1 hx
      have hnext : m.bare.Ahead x.bare := h'.ahead_of_mem (p := m) hx
      exact (h.ahead_of_mem hm).trans hnext
    rw [has_distinct hahead, h'.has_flatMap]
    simp only [h.has_iff]
  · rintro p q ⟨m, hm, hq⟩
    have hahead := h.ahead p m hm
    rw [← hahead.bare_eq] at hq
    exact hahead.trans (h'.ahead m q hq)

/-- One step or another. -/
theorem Follows.alt (h : Follows step R) (h' : Follows step' R') :
    Follows (fun p => distinct (step p ++ step' p)) fun p q => R p q ∨ R' p q := by
  constructor
  · intro p q
    have hahead : ∀ x ∈ step p ++ step' p, p.Ahead x.bare := fun x hx =>
      (List.mem_append.1 hx).elim h.ahead_of_mem h'.ahead_of_mem
    rw [has_distinct hahead, has_append, h.has_iff, h'.has_iff]
  · rintro p q (hq | hq)
    · exact h.ahead p q hq
    · exact h'.ahead p q hq

theorem follows_here : Follows (fun p => [p]) fun p q => q = p :=
  ⟨fun _ _ => has_singleton, fun p _ hq => hq ▸ p.ahead_bare⟩

theorem Follows.exactly (h : Follows step R) (n : Nat) :
    Follows (Regex.exactly step · n) (Turns R n) := by
  induction n with
  | zero => exact follows_here
  | succ n ih => exact (ih.seq h).congr fun p q => by simp only [turns_add, turns_one]

theorem Follows.rounds (h : Follows step R) :
    Follows (Regex.rounds step greedy) fun p q => ∃ n, Turns R (n + 1) p q := by
  constructor
  · intro p q
    have hadds : Rounds.Adds p (fun _ x q => ∃ n, Turns R (n + 1) x q) (fun _ _ => False)
        (fun q => ∃ n, Turns R (n + 1) p.bare q) {}
        (Rounds.walk step greedy (p.rest.length + 1) p {}) :=
      Rounds.adds_walk h (Nat.lt_succ_self _) p.ahead_bare fun _ _ h => h.elim
    rw [Regex.rounds, has_reverse, (hadds (covers_empty _ _ _)).2]
    exact or_iff_right not_has_nil
  · rintro p q ⟨n, hq⟩
    exact (h.exactly (n + 1)).ahead p q hq

theorem Follows.anyRounds (h : Follows step R) :
    Follows (Regex.anyRounds step greedy) fun p q => ∃ n, Turns R n p q := by
  have hrounds : ∀ p q, (∃ n, Turns R n p q) ↔ (∃ n, Turns R (n + 1) p q) ∨ q = p := fun p q => by
    constructor
    · rintro ⟨n, hq⟩
      cases n with
      | zero => exact .inr hq
      | succ n => exact .inl ⟨n, hq⟩
    · rintro (⟨n, hq⟩ | hq)
      · exact ⟨n + 1, hq⟩
      · exact ⟨0, hq⟩
  cases greedy with
  | true => exact (h.rounds.alt follows_here).congr fun p q => (hrounds p q).symm
  | false =>
    exact (follows_here.alt h.rounds).congr fun p q => or_comm.trans (hrounds p q).symm

theorem Follows.atMost (h : Follows step R) :
    Follows (fun p => Regex.atMost step greedy n (Regex.exactly step p k)) fun p q =>
      ∃ m, k ≤ m ∧ m ≤ k + n ∧ Turns R m p q := by
  have hturns : ∀ p q, (∃ m, k ≤ m ∧ m ≤ k + n ∧ Turns R m p q) ↔
      ∃ x, Turns R k p x ∧ ∃ j ≤ n, Turns R j x q := fun p q => by
    constructor
    · rintro ⟨m, hk, hn, hq⟩
      obtain ⟨j, rfl⟩ := Nat.exists_eq_add_of_le hk
      obtain ⟨x, hx, hq⟩ := turns_add.1 hq
      exact ⟨x, hx, j, Nat.le_of_add_le_add_left hn, hq⟩
    · rintro ⟨x, hx, j, hj, hq⟩
      exact ⟨k + j, Nat.le_add_right _ _, Nat.add_le_add_left hj _, turns_add.2 ⟨x, hx, hq⟩⟩
  constructor
  · intro p q
    have hadds : Rounds.Adds p (fun n x q => ∃ j ≤ n + 1, Turns R j x q) (fun _ _ => False)
        (fun q => ∃ x ∈ Regex.exactly step p k, ∃ j ≤ n, Turns R j x.bare q) {}
        ((Regex.exactly step p k).foldl (fun w x => Rounds.atMost step greedy n x w) {}) :=
      Rounds.adds_foldl (fun x hx w => Rounds.adds_atMost h ((h.exactly k).ahead_of_mem hx)
        fun _ _ h => h.elim) {}
    rw [Regex.atMost, has_reverse, (hadds (covers_empty _ _ _)).2, hturns]
    exact (or_iff_right not_has_nil).trans
      ((h.exactly k).exists_mem_iff (K := fun x => ∃ j ≤ n, Turns R j x q))
  · rintro p q ⟨m, -, -, hq⟩
    exact (h.exactly m).ahead p q hq

end Spot

namespace Regex

variable {r : Regex} {p q : Spot}

/-! ## Expressions -/

/-- The bare spots between which an expression matches. -/
def Moves : Regex → Spot → Spot → Prop
  | empty => fun p q => q = p
  | one set => fun p q => ∃ c, p.next? = some (c, q) ∧ set.has c = true
  | anchor a => fun p q => p.satisfies a = true ∧ q = p
  | seq r s => fun p q => ∃ m, r.Moves p m ∧ s.Moves m q
  | alt r s => fun p q => r.Moves p q ∨ s.Moves p q
  | rep r min none _ => fun p q => ∃ n, min ≤ n ∧ Turns r.Moves n p q
  | rep r min (some max) _ => fun p q => ∃ n, min ≤ n ∧ n ≤ min + (max - min) ∧ Turns r.Moves n p q
  | group _ r => r.Moves

theorem follows_one (set : CharSet) : Follows (one set).ends (one set).Moves := by
  constructor
  · intro p q
    obtain ⟨pos, before, rest, groups⟩ := p
    cases rest with
    | nil =>
      refine ⟨fun h => absurd h not_has_nil, ?_⟩
      rintro ⟨c, hnext, -⟩
      cases hnext
    | cons c s =>
      by_cases hc : set.has c = true
      · have hends : (one set).ends ⟨pos, before, c :: s, groups⟩ =
            [⟨pos + 1, some c, s, groups⟩] := if_pos hc
        rw [hends, has_singleton]
        constructor
        · rintro rfl
          exact ⟨c, rfl, hc⟩
        · rintro ⟨d, hnext, -⟩
          cases hnext
          rfl
      · have hends : (one set).ends ⟨pos, before, c :: s, groups⟩ = [] := if_neg hc
        rw [hends]
        refine ⟨fun h => absurd h not_has_nil, ?_⟩
        rintro ⟨d, hnext, hd⟩
        cases hnext
        exact absurd hd hc
  · rintro p q ⟨c, hnext, -⟩
    obtain ⟨pos, before, rest, groups⟩ := p
    cases rest with
    | nil => cases hnext
    | cons d s =>
      cases hnext
      exact ⟨[c], s, rfl, rfl⟩

/-- The ends of matches are found for all expressions. -/
theorem follows_ends (r : Regex) : Follows r.ends r.Moves := by
  induction r with
  | empty => exact follows_here
  | one set => exact follows_one set
  | anchor a =>
    constructor
    · intro p q
      show Has (if p.satisfies a then [p] else []) q ↔ p.satisfies a = true ∧ q = p.bare
      split
      · next h => simp [h, has_singleton]
      · next h => simp [h, not_has_nil]
    · rintro p q ⟨-, rfl⟩
      exact p.ahead_bare
  | seq r s hr hs => exact hr.seq hs
  | alt r s hr hs => exact hr.alt hs
  | rep r min max greedy hr =>
    cases max with
    | some max => exact hr.atMost
    | none =>
      cases min with
      | zero => exact hr.anyRounds.congr fun p q => by simp [Moves]
      | succ k =>
        refine ((hr.exactly k).seq hr.rounds).congr fun p q => ?_
        constructor
        · rintro ⟨m, hm, n, hq⟩
          exact ⟨k + (n + 1), Nat.succ_le_succ (Nat.le_add_right _ _), turns_add.2 ⟨m, hm, hq⟩⟩
        · rintro ⟨n, hn, hq⟩
          obtain ⟨j, rfl⟩ := Nat.exists_eq_add_of_le hn
          rw [Nat.add_right_comm, Nat.add_assoc] at hq
          obtain ⟨m, hm, hq⟩ := turns_add.1 hq
          exact ⟨m, hm, j, hq⟩
  | group index r hr =>
    constructor
    · intro p q
      show _ ↔ r.Moves p.bare q
      rw [← hr.has_iff]
      simp [Has, ends, bare]
    · exact hr.ahead

/-! ## What is left behind a part -/

variable {set : CharSet} {K : List Char → Prop}

theorem exists_moves_one : (∃ q, (one set).Moves p q ∧ K q.rest) ↔
    ∃ c s, p.rest = c :: s ∧ set.has c = true ∧ K s := by
  obtain ⟨pos, before, rest, groups⟩ := p
  constructor
  · rintro ⟨q, ⟨c, hnext, hc⟩, hK⟩
    cases rest with
    | nil => cases hnext
    | cons d s =>
      cases hnext
      exact ⟨c, s, rfl, hc, hK⟩
  · rintro ⟨c, s, hrest, hc, hK⟩
    cases hrest
    exact ⟨_, ⟨c, rfl, hc⟩, hK⟩

theorem exists_moves_many : (∃ q, (many (one set)).Moves p q ∧ K q.rest) ↔
    ∃ front rest, p.rest = front ++ rest ∧ (∀ c ∈ front, set.has c = true) ∧ K rest := by
  constructor
  · rintro ⟨q, ⟨n, -, hq⟩, hK⟩
    induction n generalizing p with
    | zero =>
      cases hq
      exact ⟨[], q.rest, rfl, by simp, hK⟩
    | succ n ih =>
      obtain ⟨m, hm, hq⟩ := hq
      obtain ⟨c, s, hrest, hc, front, rest, rfl, hall, hK⟩ := (exists_moves_one (K := fun s =>
        ∃ front rest, s = front ++ rest ∧ (∀ c ∈ front, set.has c = true) ∧ K rest)).1
          ⟨m, hm, ih hq⟩
      exact ⟨c :: front, rest, hrest, List.forall_mem_cons.2 ⟨hc, hall⟩, hK⟩
  · rintro ⟨front, rest, hrest, hall, hK⟩
    induction front generalizing p with
    | nil =>
      have hrest : p.rest = rest := hrest
      exact ⟨p, ⟨0, Nat.le_refl 0, rfl⟩, hrest ▸ hK⟩
    | cons c front ih =>
      obtain ⟨hc, hall⟩ := List.forall_mem_cons.1 hall
      obtain ⟨m, hm, hmrest⟩ := (exists_moves_one (K := (· = front ++ rest))).2
        ⟨c, _, hrest, hc, rfl⟩
      obtain ⟨q, ⟨n, -, hq⟩, hK⟩ := ih hmrest hall
      exact ⟨q, ⟨n + 1, Nat.zero_le _, m, hm, hq⟩, hK⟩

theorem exists_moves_seq {r' : Regex} : (∃ q, (seq r r').Moves p q ∧ K q.rest) ↔
    ∃ m, r.Moves p m ∧ ∃ q, r'.Moves m q ∧ K q.rest := by
  constructor
  · rintro ⟨q, ⟨m, hm, hq⟩, hK⟩
    exact ⟨m, hm, q, hq, hK⟩
  · rintro ⟨m, hm, q, hq, hK⟩
    exact ⟨q, ⟨m, hm, hq⟩, hK⟩

theorem exists_moves_maybe : (∃ q, (maybe r).Moves p q ∧ K q.rest) ↔
    K p.rest ∨ ∃ q, r.Moves p q ∧ K q.rest := by
  constructor
  · rintro ⟨q, ⟨n, -, hn, hq⟩, hK⟩
    rcases Nat.le_one_iff_eq_zero_or_eq_one.1 hn with rfl | rfl
    · cases hq
      exact .inl hK
    · exact .inr ⟨q, Spot.turns_one.1 hq, hK⟩
  · rintro (hK | ⟨q, hq, hK⟩)
    · exact ⟨p, ⟨0, Nat.le_refl 0, Nat.zero_le 1, rfl⟩, hK⟩
    · exact ⟨q, ⟨1, Nat.zero_le 1, Nat.le_refl 1, Spot.turns_one.2 hq⟩, hK⟩

/-! ## Searching -/

theorem head?_ends : (r.ends p).head?.isSome = true ↔ ∃ q, r.Moves p.bare q := by
  simp only [← (follows_ends r).has_iff]
  cases hends : r.ends p with
  | nil => simp [not_has_nil]
  | cons q qs =>
    simp only [List.head?_cons, Option.isSome_some, true_iff]
    exact ⟨q.bare, q, List.mem_cons_self, rfl⟩

/-- A match is found in a text where one starts at some spot of it. -/
theorem isSome_findFrom (r : Regex) (pos : Nat) (before : Option Char) (s : List Char) :
    (r.findFrom pos before s).isSome = true ↔
      ∃ p q, Spot.Ahead ⟨pos, before, s, []⟩ p ∧ r.Moves p q := by
  induction s generalizing pos before with
  | nil =>
    rw [findFrom, Option.isSome_map, head?_ends]
    constructor
    · rintro ⟨q, hq⟩
      exact ⟨_, q, Spot.ahead_bare _, hq⟩
    · rintro ⟨_, q, ⟨front, rest, hnil, rfl⟩, hq⟩
      obtain ⟨rfl, rfl⟩ := List.nil_eq_append_iff.1 hnil
      exact ⟨q, hq⟩
  | cons c s ih =>
    have hhere : (r.ends ⟨pos, before, c :: s, []⟩).head?.isSome = true ↔
        ∃ p q, p = (⟨pos, before, c :: s, []⟩ : Spot) ∧ r.Moves p q := by
      rw [head?_ends]
      constructor
      · rintro ⟨q, hq⟩
        exact ⟨_, q, rfl, hq⟩
      · rintro ⟨_, q, rfl, hq⟩
        exact ⟨q, hq⟩
    simp only [Spot.ahead_cons_iff, or_and_right, exists_or, ← hhere, ← ih]
    rw [findFrom]
    split
    · next q hq => simp [hq]
    · next hnone => simp [hnone]

end Regex

end ContextCompiler
