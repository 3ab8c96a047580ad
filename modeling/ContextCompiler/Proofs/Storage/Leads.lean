import ContextCompiler.Proofs.Storage.Follow

/-!
What a path goes over.

`Leads` has all that the pieces of a path meet on their way: only directories and links, and at the
end whatever stands there. So a path may be cut at any piece, and where no link stands names lead
straight down.
-/

namespace ContextCompiler

namespace Storage

variable {s : Storage} {links : Nat} {pieces front back names : List String} {p q r : Place}
  {name : String}

/-! ## Pieces -/

/-- Pieces lead from `p` to `q`. Of the links that may be followed some are left in the end. -/
inductive Leads (s : Storage) : Nat → List String → Place → Nat → Place → Prop
  | done {links : Nat} {p : Place} : Leads s links [] p links p
  | idle {links left : Nat} {name : String} {rest : List String} {p q : Place} :
      s.get? p = some .directory → name = "" ∨ name = "." → Leads s links rest p left q →
      Leads s links (name :: rest) p left q
  | up {links left : Nat} {rest : List String} {p q : Place} :
      s.get? p = some .directory → Leads s links rest p.dropLast left q →
      Leads s links (".." :: rest) p left q
  | link {links left : Nat} {name target : String} {rest : List String} {p q : Place} :
      s.get? p = some .directory → IsName name → name.utf8ByteSize ≤ nameLimit →
      s.get? (p ++ [name]) = some (.link target) →
      Leads s links (Text.split '/' target ++ rest)
        (if Path.isAbsolute target then [] else p) left q →
      Leads s (links + 1) (name :: rest) p left q
  | enter {links left : Nat} {name : String} {rest : List String} {p q : Place} {e : Entry} :
      s.get? p = some .directory → IsName name → name.utf8ByteSize ≤ nameLimit →
      s.get? (p ++ [name]) = some e → (∀ t, e ≠ .link t) → Leads s links rest (p ++ [name]) left q →
      Leads s links (name :: rest) p left q

theorem leads_of_follow (h : s.follow true links pieces p = .ok q) :
    ∃ left, s.Leads links pieces p left q := by
  fun_induction s.follow true links pieces p with
  | case1 links p => exact ⟨links, Except.ok.inj h ▸ .done⟩
  | case2 => cases h
  | case3 links p piece rest hp hidle ih =>
    rw [bne_iff_ne, not_not] at hp
    rw [Bool.or_eq_true, beq_iff_eq, beq_iff_eq] at hidle
    exact (ih h).imp fun _ => .idle hp hidle
  | case4 links p piece rest hp _ hup ih =>
    rw [bne_iff_ne, not_not] at hp
    rw [beq_iff_eq] at hup
    subst hup
    exact (ih h).imp fun _ => .up hp
  | case5 => cases h
  | case6 => cases h
  | case7 links p piece rest hp hidle hup hsize _ target hget hlast => simp at hlast
  | case8 => cases h
  | case9 p piece rest hp hidle hup hsize _ target hget _ n ih =>
    rw [bne_iff_ne, not_not] at hp
    exact (ih h).imp fun _ => .link hp (isName_of_not hidle hup) (Nat.not_lt.1 hsize) hget
  | case10 links p piece rest hp hidle hup hsize _ e hlink hget ih =>
    rw [bne_iff_ne, not_not] at hp
    exact (ih h).imp fun _ => .enter hp (isName_of_not hidle hup) (Nat.not_lt.1 hsize) hget hlink

namespace Leads

variable {left : Nat}

theorem follow (h : s.Leads links pieces p left q) : s.follow true links pieces p = .ok q := by
  induction h with
  | done => rw [Storage.follow]
  | idle hp hidle _ ih =>
    rw [Storage.follow, if_neg (by simp [hp]), if_pos (by simpa using hidle), ih]
  | up hp _ ih =>
    rw [Storage.follow, if_neg (by simp [hp]), if_neg (by decide), if_pos (by decide), ih]
  | link hp hname hsize hget _ ih =>
    obtain ⟨h₁, h₂, h₃⟩ := hname
    rw [Storage.follow, if_neg (by simp [hp]), if_neg (by simp [h₁, h₂]), if_neg (by simp [h₃]),
      if_neg (Nat.not_lt.2 hsize)]
    dsimp only
    rw [hget]
    simpa using ih
  | @enter _ _ _ _ _ _ e hp hname hsize hget hlink _ ih =>
    obtain ⟨h₁, h₂, h₃⟩ := hname
    rw [Storage.follow, if_neg (by simp [hp]), if_neg (by simp [h₁, h₂]), if_neg (by simp [h₃]),
      if_neg (Nat.not_lt.2 hsize)]
    dsimp only
    rw [hget]
    cases e with
    | directory => exact ih
    | file bytes => exact ih
    | link t => exact absurd rfl (hlink t)

/-- Only from a directory do pieces lead on. -/
theorem directory (h : s.Leads links (name :: pieces) p left q) : s.get? p = some .directory := by
  cases h <;> assumption

theorem trans {links' : Nat} (h : s.Leads links front p links' r)
    (h' : s.Leads links' back r left q) : s.Leads links (front ++ back) p left q := by
  induction h with
  | done => exact h'
  | idle hp hidle _ ih => exact .idle hp hidle (ih h')
  | up hp _ ih => exact .up hp (ih h')
  | link hp hname hsize hget _ ih =>
    exact .link hp hname hsize hget (List.append_assoc _ _ back ▸ ih h')
  | enter hp hname hsize hget hlink _ ih => exact .enter hp hname hsize hget hlink (ih h')

/-- Pieces lead through the place that the first of them lead to. -/
theorem exists_of_append (h : s.Leads links (front ++ back) p left q) :
    ∃ links' r, s.Leads links front p links' r ∧ s.Leads links' back r left q := by
  generalize hpieces : front ++ back = pieces at h
  induction h generalizing front with
  | done =>
    obtain ⟨rfl, rfl⟩ := List.append_eq_nil_iff.1 hpieces
    exact ⟨_, _, .done, .done⟩
  | idle hp hidle h ih =>
    rcases List.append_eq_cons_iff.1 hpieces with ⟨rfl, rfl⟩ | ⟨front, rfl, rfl⟩
    · exact ⟨_, _, .done, .idle hp hidle h⟩
    · obtain ⟨links', r, hfront, hback⟩ := ih rfl
      exact ⟨links', r, .idle hp hidle hfront, hback⟩
  | up hp h ih =>
    rcases List.append_eq_cons_iff.1 hpieces with ⟨rfl, rfl⟩ | ⟨front, rfl, rfl⟩
    · exact ⟨_, _, .done, .up hp h⟩
    · obtain ⟨links', r, hfront, hback⟩ := ih rfl
      exact ⟨links', r, .up hp hfront, hback⟩
  | link hp hname hsize hget h ih =>
    rcases List.append_eq_cons_iff.1 hpieces with ⟨rfl, rfl⟩ | ⟨front, rfl, rfl⟩
    · exact ⟨_, _, .done, .link hp hname hsize hget h⟩
    · obtain ⟨links', r, hfront, hback⟩ := ih (List.append_assoc _ _ back)
      exact ⟨links', r, .link hp hname hsize hget hfront, hback⟩
  | enter hp hname hsize hget hlink h ih =>
    rcases List.append_eq_cons_iff.1 hpieces with ⟨rfl, rfl⟩ | ⟨front, rfl, rfl⟩
    · exact ⟨_, _, .done, .enter hp hname hsize hget hlink h⟩
    · obtain ⟨links', r, hfront, hback⟩ := ih rfl
      exact ⟨links', r, .enter hp hname hsize hget hlink hfront, hback⟩

/-- Pieces that lead nowhere may follow what leads to a directory. -/
theorem append_idle (h : s.Leads links pieces p left q) (hq : s.get? q = some .directory)
    (hidle : ∀ n ∈ names, n = "" ∨ n = ".") : s.Leads links (pieces ++ names) p left q := by
  refine h.trans ?_
  induction names with
  | nil => exact .done
  | cons n rest ih =>
    exact .idle hq (hidle n List.mem_cons_self)
      (ih fun m hm => hidle m (List.mem_cons_of_mem _ hm))

theorem eq_of_idle (h : s.Leads links pieces p left q) (hidle : ∀ n ∈ pieces, n = "" ∨ n = ".") :
    q = p := by
  induction h with
  | done => rfl
  | idle _ _ _ ih => exact ih fun n hn => hidle n (List.mem_cons_of_mem _ hn)
  | up => exact absurd (hidle ".." List.mem_cons_self) (by decide)
  | link _ hname | enter _ hname =>
    exact absurd (hidle _ List.mem_cons_self) (not_or.2 ⟨hname.1, hname.2.1⟩)

end Leads

/-- Where a path starts, and the paths under it when it is that of a directory. -/
def base (s : Storage) (path : String) : Place := if Path.isAbsolute path then [] else s.workDir

theorem start_eq (s : Storage) (path : String) :
    s.start path = (s.base path, Text.split '/' path) := rfl

/-- A path that ends in a name leads to what has the name in the directory before it. -/
theorem locate_of_leads {path : String} {dir : Place} {left : Nat} {e : Entry}
    (hsplit : Text.split '/' path = front ++ [name]) (hname : IsName name)
    (hsize : name.utf8ByteSize ≤ nameLimit)
    (hleads : s.Leads linkLimit front (s.base path) left dir)
    (hdir : s.get? dir = some .directory) (hget : s.get? (dir ++ [name]) = some e)
    (hlink : ∀ t, e ≠ .link t) : s.locate path = .ok (dir ++ [name]) := by
  have hne : path ≠ "" := fun h => by
    have hlast := congrArg List.getLast? hsplit
    rw [h, List.getLast?_concat] at hlast
    exact hname.1 (Option.some.inj hlast).symm
  rw [locate, if_neg (by simpa using hne), start_eq]
  dsimp only
  rw [hsplit]
  exact (hleads.trans (.enter hdir hname hsize hget hlink .done)).follow

/-! ## Below a place without links -/

/-- No link stands in a place or below it. -/
def Unlinked (s : Storage) (r : Place) : Prop :=
  ∀ q t, s.get? q = some (.link t) → ¬ r <+: q

theorem Unlinked.of_prefix (h : s.Unlinked r) (hq : r <+: q) : s.Unlinked q :=
  fun p t hp hqp => h p t hp (hq.trans hqp)

theorem unlinked_of_entries (h : ∀ q t, (q, Entry.link t) ∉ s.entries) : s.Unlinked [] := by
  intro q t hget
  rcases get?_cases hget with ⟨-, hroot⟩ | hmem
  · cases hroot
  · exact absurd hmem (h q t)

theorem Unlinked.ne_link (h : s.Unlinked r) (names : List String) (t : String) :
    s.get? (r ++ names) ≠ some (.link t) :=
  fun hget => h _ t hget (List.prefix_append r names)

/-- Without links, names lead straight down. -/
theorem Leads.eq_append {left : Nat} (h : s.Leads links names p left q) (hlinks : s.Unlinked p)
    (hnames : ∀ n ∈ names, IsName n) (hp : (s.get? p).isSome) :
    q = p ++ names ∧ (s.get? q).isSome := by
  induction h with
  | done => exact ⟨(List.append_nil _).symm, hp⟩
  | idle _ hidle =>
    obtain ⟨h₁, h₂, -⟩ := hnames _ List.mem_cons_self
    exact absurd hidle (not_or.2 ⟨h₁, h₂⟩)
  | up => exact absurd rfl (hnames ".." List.mem_cons_self).2.2
  | link _ _ _ hget => exact absurd hget (hlinks.ne_link _ _)
  | enter _ _ _ hget _ _ ih =>
    obtain ⟨rfl, hsome⟩ := ih (hlinks.of_prefix (List.prefix_append _ _))
      (fun n hn => hnames n (List.mem_cons_of_mem _ hn)) (by rw [hget]; rfl)
    exact ⟨List.append_assoc _ [_] _, hsome⟩

end Storage

end ContextCompiler
