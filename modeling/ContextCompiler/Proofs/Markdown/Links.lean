import Mathlib.Data.List.TakeDrop
import Mathlib.Data.List.TakeWhile
import ContextCompiler.Markdown.Cleanup
import ContextCompiler.Proofs.Text.Trim

/-!
Links, found in one scan.

A link ends where a closing bracket stands right before a target in parentheses, and it starts at
the first bracket that was open there. So a scan for links need not look back: it has to know
whether a bracket is open, and whether it is that of a picture. No target holds a blank, so the scan
can be taken up anew at each blank.
-/

namespace ContextCompiler

/-- A text is cut before a character just where those before it go on and it does not. -/
theorem Text.span_eq_cons_iff {p : Char → Bool} {s a b : List Char} {d : Char} :
    s.span p = (a, d :: b) ↔ (∀ c ∈ a, p c = true) ∧ p d = false ∧ s = a ++ d :: b := by
  rw [List.span_eq_takeWhile_dropWhile, Prod.mk.injEq]
  constructor
  · rintro ⟨rfl, hdrop⟩
    refine ⟨fun c hc => List.mem_takeWhile_imp hc, ?_, ?_⟩
    · have hhead := List.head?_dropWhile_not p s
      rw [hdrop] at hhead
      simpa using hhead
    · rw [← hdrop, List.takeWhile_append_dropWhile]
  · rintro ⟨hall, hd, rfl⟩
    rw [List.takeWhile_append_of_pos hall, List.dropWhile_append_of_pos hall,
      List.takeWhile_cons_of_neg (by simp [hd]), List.dropWhile_cons_of_neg (by simp [hd]),
      List.append_nil]
    exact ⟨rfl, rfl⟩

namespace Markdown

variable {base : Url} {c : Char} {s l front text target rest : List Char}

/-! ## Targets -/

/-- A target of a link: it is not empty, and it holds no blank and does not end its parentheses. -/
def IsTarget (target : List Char) : Prop :=
  target ≠ [] ∧ ∀ c ∈ target, c ≠ ')' ∧ Text.isBlank c = false

/-- The end of a link with a target. -/
def linkEnd (target : List Char) : List Char := ']' :: '(' :: target ++ [')']

/-- The target of the link that ends at the start of a text, and what follows it. -/
def linkEnd? : List Char → Option (List Char × List Char)
  | ']' :: '(' :: s =>
    match s.span fun c => c != ')' && !Text.isBlank c with
    | (c :: target, ')' :: rest) => some (c :: target, rest)
    | _ => none
  | _ => none

theorem span_target_iff :
    s.span (fun c => c != ')' && !Text.isBlank c) = (c :: target, ')' :: rest) ↔
      IsTarget (c :: target) ∧ s = c :: target ++ ')' :: rest := by
  rw [Text.span_eq_cons_iff]
  simp only [Bool.and_eq_true, bne_iff_ne, Bool.not_eq_true', IsTarget, ne_eq, reduceCtorEq,
    not_false_eq_true, true_and, bne_self_eq_false, Bool.false_and]

theorem linkEnd?_eq_some_iff :
    linkEnd? s = some (target, rest) ↔ IsTarget target ∧ s = linkEnd target ++ rest := by
  constructor
  · intro h
    unfold linkEnd? at h
    split at h
    · split at h
      · next hspan =>
        cases h
        obtain ⟨htarget, rfl⟩ := span_target_iff.1 hspan
        exact ⟨htarget, by simp [linkEnd]⟩
      · cases h
    · cases h
  · rintro ⟨htarget, rfl⟩
    obtain ⟨c, t, rfl⟩ := List.exists_cons_of_ne_nil htarget.1
    have happend : linkEnd (c :: t) ++ rest = ']' :: '(' :: (c :: t ++ ')' :: rest) := by
      simp [linkEnd]
    rw [happend]
    simp only [linkEnd?, span_target_iff.2 ⟨htarget, rfl⟩]

/-- A link at the start of a text is an open bracket, its text, and its end. -/
theorem link?_eq_some_iff : link? s = some (text, target, rest) ↔
    ']' ∉ text ∧ IsTarget target ∧ s = '[' :: (text ++ (linkEnd target ++ rest)) := by
  have htext : ∀ t : List Char, (∀ c ∈ t, (c != ']') = true) ↔ ']' ∉ t := fun t =>
    ⟨fun h hmem => by simpa using h _ hmem, fun h c hc => bne_iff_ne.2 fun e => h (e ▸ hc)⟩
  constructor
  · intro h
    unfold link? at h
    split at h
    · split at h
      · next hspan =>
        obtain ⟨hall, -, rfl⟩ := Text.span_eq_cons_iff.1 hspan
        split at h
        · next hspan =>
          cases h
          obtain ⟨htarget, rfl⟩ := span_target_iff.1 hspan
          exact ⟨(htext _).1 hall, htarget, by simp [linkEnd]⟩
        · cases h
      · cases h
    · cases h
  · rintro ⟨hnot, htarget, rfl⟩
    obtain ⟨c, t, rfl⟩ := List.exists_cons_of_ne_nil htarget.1
    have happend : text ++ (linkEnd (c :: t) ++ rest) =
        text ++ ']' :: ('(' :: (c :: t ++ ')' :: rest)) := by
      simp [linkEnd]
    rw [happend]
    simp only [link?, Text.span_eq_cons_iff.2 ⟨(htext _).2 hnot, bne_self_eq_false ']', rfl⟩,
      span_target_iff.2 ⟨htarget, rfl⟩]

/-- The target of a link against the base. -/
def absoluteTarget (base : Url) (target : List Char) : List Char :=
  if isSettled target then target
  else
    match base.join (String.ofList target) with
    | .ok url => url.toString.toList
    | .error _ => target

theorem absoluteLink_eq (base : Url) (text target : List Char) :
    absoluteLink base text target = '[' :: (text ++ linkEnd (absoluteTarget base target)) := by
  unfold absoluteLink absoluteTarget
  dsimp only
  split
  · simp [linkEnd]
  · cases base.join (String.ofList target) <;> simp [linkEnd]

/-! ## The scan -/

/-- What bracket is open, or may be opened, where a scan for links is. -/
inductive Bracket where
  | outside
  | bang
  | link
  | picture
  deriving DecidableEq

namespace Bracket

def isOpen : Bracket → Bool
  | link | picture => true
  | outside | bang => false

/-- The bracket behind a character that ends no link. -/
def next (b : Bracket) (c : Char) : Bracket :=
  match b with
  | link | picture => if c = ']' then outside else b
  | outside | bang =>
    if c = '[' then (if b = bang then picture else link) else if c = '!' then bang else outside

theorem next_ne_bang {b : Bracket} (h : c ≠ '!') : b.next c ≠ bang := by
  cases b <;> simp only [next, h, if_false] <;> split <;> simp

/-- The target in the end of a link or a picture against the base. -/
def written (base : Url) (b : Bracket) (target : List Char) : List Char :=
  if b = link then absoluteTarget base target else target

end Bracket

/-- The target of the link or picture that ends at the start of a text, if one is open. -/
def endOf? (b : Bracket) (s : List Char) : Option (List Char × List Char) :=
  if b.isOpen then linkEnd? s else none

theorem endOf?_eq_some_iff {b : Bracket} : endOf? b s = some (target, rest) ↔
    b.isOpen = true ∧ IsTarget target ∧ s = linkEnd target ++ rest := by
  rw [endOf?, Option.ite_none_right_eq_some, linkEnd?_eq_some_iff]

theorem length_lt_of_endOf? {b : Bracket} (h : endOf? b s = some (target, rest)) :
    rest.length < s.length := by
  rw [(endOf?_eq_some_iff.1 h).2.2, linkEnd, List.length_append]
  simp only [List.length_append, List.length_cons]
  omega

/-- A text with the targets of its links against the base. -/
def scan (base : Url) (b : Bracket) : List Char → List Char
  | [] => []
  | c :: s =>
    match h : endOf? b (c :: s) with
    | some (target, rest) =>
      have : rest.length < (c :: s).length := length_lt_of_endOf? h
      linkEnd (b.written base target) ++ scan base .outside rest
    | none => c :: scan base (b.next c) s
termination_by s => s.length
decreasing_by
  · exact this
  · exact Nat.lt_succ_self _

variable {b : Bracket}

theorem scan_linkEnd (hopen : b.isOpen = true) (htarget : IsTarget target) (rest : List Char) :
    scan base b (linkEnd target ++ rest) =
      linkEnd (b.written base target) ++ scan base .outside rest := by
  have hend : endOf? b (linkEnd target ++ rest) = some (target, rest) :=
    endOf?_eq_some_iff.2 ⟨hopen, htarget, rfl⟩
  rw [linkEnd, List.cons_append, List.cons_append] at hend ⊢
  rw [scan]
  split
  · next heq =>
    cases heq.symm.trans hend
    rfl
  · next heq => cases heq.symm.trans hend

theorem scan_cons (h : endOf? b (c :: s) = none) :
    scan base b (c :: s) = c :: scan base (b.next c) s := by
  rw [scan]
  split
  · next heq => cases heq.symm.trans h
  · rfl

/-- Only a closing bracket ends a link. -/
theorem endOf?_eq_none (h : c ≠ ']') (s : List Char) : endOf? b (c :: s) = none := by
  rw [Option.eq_none_iff_forall_ne_some]
  rintro ⟨target, rest⟩ heq
  have hs := (endOf?_eq_some_iff.1 heq).2.2
  exact h (List.cons.inj hs).1

/-- Before a closing bracket nothing is changed. -/
theorem scan_append (h : ']' ∉ front) (s : List Char) :
    scan base b (front ++ s) = front ++ scan base (front.foldl Bracket.next b) s := by
  induction front generalizing b with
  | nil => rfl
  | cons c front ih =>
    rw [List.mem_cons, not_or] at h
    rw [List.cons_append, scan_cons (endOf?_eq_none (Ne.symm h.1) _), ih h.2]
    rfl

/-- A text in which no link can end is left as it is. -/
theorem scan_eq_self (h : ¬ [']', '('] <:+: s) : scan base b s = s := by
  induction s generalizing b with
  | nil => rw [scan]
  | cons c s ih =>
    have hnone : endOf? b (c :: s) = none := by
      rw [Option.eq_none_iff_forall_ne_some]
      rintro ⟨target, rest⟩ heq
      have hs := (endOf?_eq_some_iff.1 heq).2.2
      exact h ⟨[], target ++ ')' :: rest, by rw [hs]; simp [linkEnd]⟩
    rw [scan_cons hnone, ih fun hin => h (hin.trans (List.suffix_cons c s).isInfix)]

/-- An open bracket stays open up to a closing one. -/
theorem foldl_next (hopen : b.isOpen = true) (h : ']' ∉ text) :
    text.foldl Bracket.next b = b := by
  induction text with
  | nil => rfl
  | cons c text ih =>
    rw [List.mem_cons, not_or] at h
    have hnext : b.next c = b := by
      cases b with
      | outside => cases hopen
      | bang => cases hopen
      | link => exact if_neg (Ne.symm h.1)
      | picture => exact if_neg (Ne.symm h.1)
    rw [List.foldl_cons, hnext, ih h.2]

/-- From an open bracket on a link is gone through up to behind its target. -/
theorem scan_text (hopen : b.isOpen = true) (htext : ']' ∉ text) (htarget : IsTarget target)
    (rest : List Char) : scan base b (text ++ (linkEnd target ++ rest)) =
      text ++ (linkEnd (b.written base target) ++ scan base .outside rest) := by
  rw [scan_append htext, foldl_next hopen htext, scan_linkEnd hopen htarget]

/-- A text in which the first closing bracket stands before no target. -/
def IsDead (s : List Char) : Prop :=
  ∀ text target rest, ']' ∉ text → IsTarget target → s ≠ text ++ (linkEnd target ++ rest)

theorem isDead_of_link? (h : link? ('[' :: s) = none) : IsDead s := by
  rintro text target rest htext htarget rfl
  rw [link?_eq_some_iff.2 ⟨htext, htarget, rfl⟩] at h
  cases h

theorem IsDead.of_cons (h : IsDead (c :: s)) (hc : c ≠ ']') : IsDead s := by
  intro text target rest htext htarget hs
  refine h (c :: text) target rest ?_ htarget (by rw [hs, List.cons_append])
  rw [List.mem_cons, not_or]
  exact ⟨hc.symm, htext⟩

/-- Before such a text it does not count whether a bracket is open. -/
theorem IsDead.scan_eq (h : IsDead s) (b b' : Bracket) : scan base b s = scan base b' s := by
  induction s generalizing b b' with
  | nil => rw [scan, scan]
  | cons c s ih =>
    have hnone : ∀ b : Bracket, endOf? b (c :: s) = none := fun b => by
      rw [Option.eq_none_iff_forall_ne_some]
      rintro ⟨target, rest⟩ heq
      obtain ⟨-, htarget, hs⟩ := endOf?_eq_some_iff.1 heq
      exact h [] target rest List.not_mem_nil htarget hs
    rw [scan_cons (hnone b), scan_cons (hnone b')]
    by_cases hc : c = ']'
    · have hnext : ∀ b : Bracket, b.next c = .outside := fun b => by
        subst hc
        cases b <;> rfl
      rw [hnext, hnext]
    · exact congrArg _ (ih (h.of_cons hc) _ _)

/-- A bang before a text that starts with no link does not count. -/
theorem scan_bang (h : link? s = none) : scan base .bang s = scan base .outside s := by
  cases s with
  | nil => rw [scan, scan]
  | cons c s =>
    rw [scan_cons (b := .bang) rfl, scan_cons (b := .outside) rfl]
    by_cases hc : c = '['
    · subst hc
      exact congrArg _ ((isDead_of_link? h).scan_eq _ _)
    · have hnext : Bracket.bang.next c = Bracket.outside.next c := by
        simp only [Bracket.next, hc, if_false]
      rw [hnext]

/-- The links of a text are resolved in one scan. -/
theorem absoluteLinksAux_eq_scan {fuel : Nat} (hfuel : s.length < fuel) :
    absoluteLinksAux base fuel s = scan base .outside s := by
  fun_induction absoluteLinksAux base fuel s with
  | case1 => cases hfuel
  | case2 => rw [scan]
  | case3 fuel s text target rest hlink ih =>
    -- a picture is taken over as it is
    obtain ⟨htext, htarget, rfl⟩ := link?_eq_some_iff.1 hlink
    have htake : ('[' :: (text ++ (linkEnd target ++ rest))).take
        (('[' :: (text ++ (linkEnd target ++ rest))).length - rest.length) =
        '[' :: (text ++ linkEnd target) := by
      rw [← List.append_assoc, ← List.cons_append, List.length_append, Nat.add_sub_cancel,
        List.take_left]
    have hfree : ']' ∉ ['!', '['] := by decide
    have hpicture : scan base .outside ('!' :: '[' :: (text ++ (linkEnd target ++ rest))) =
        '!' :: '[' :: scan base .picture (text ++ (linkEnd target ++ rest)) :=
      scan_append hfree _
    have hrest : rest.length < fuel := by
      simp only [List.length_cons, List.length_append] at hfuel
      omega
    rw [htake, ih hrest, hpicture, scan_text rfl htext htarget]
    simp [Bracket.written]
  | case4 fuel c s text target rest hlink hbang ih =>
    obtain ⟨htext, htarget, hs⟩ := link?_eq_some_iff.1 hlink
    have hrest : rest.length < fuel := by
      rw [hs] at hfuel
      simp only [List.length_cons, List.length_append] at hfuel
      omega
    rw [hlink]
    dsimp only
    rw [absoluteLink_eq, ih hrest, hs, scan_cons rfl]
    show _ = '[' :: scan base .link (text ++ (linkEnd target ++ rest))
    rw [scan_text rfl htext htarget]
    simp [Bracket.written]
  | case5 fuel c s hlink hbang ih =>
    rw [hlink]
    dsimp only
    rw [ih (Nat.lt_of_succ_lt_succ hfuel), scan_cons rfl]
    by_cases hopen : c = '['
    · subst hopen
      exact congrArg _ ((isDead_of_link? hlink).scan_eq _ _)
    · by_cases hc : c = '!'
      · have hnone : link? s = none := by
          rw [Option.eq_none_iff_forall_ne_some]
          rintro ⟨text, target, rest⟩ heq
          exact hbang text target rest hc heq
        subst hc
        exact congrArg _ (scan_bang hnone).symm
      · have hnext : Bracket.outside.next c = .outside := by
          simp only [Bracket.next, hopen, hc, if_false]
        rw [hnext]

theorem absoluteLinks_some (base : Url) (s : List Char) :
    absoluteLinks (some base) s = scan base .outside s :=
  absoluteLinksAux_eq_scan (Nat.lt_succ_self _)

/-! ## Blanks -/

theorem mem_linkEnd : c ∈ linkEnd target ↔ c ∈ [']', '(', ')'] ∨ c ∈ target := by
  simp only [linkEnd, List.cons_append, List.mem_cons, List.mem_append, List.not_mem_nil, or_false]
  tauto

theorem not_mem_linkEnd (hc : Text.isBlank c = true) (h : IsTarget target) :
    c ∉ linkEnd target := by
  have hsigns : ∀ d ∈ [']', '(', ')'], Text.isBlank d = false := by
    intro d hd
    simp only [List.mem_cons, List.not_mem_nil, or_false] at hd
    rcases hd with rfl | rfl | rfl <;> rfl
  intro hmem
  have hblank : Text.isBlank c = false :=
    (mem_linkEnd.1 hmem).elim (hsigns c) fun hmem => (h.2 c hmem).2
  rw [hc] at hblank
  cases hblank

/-- No link ends beyond a blank. -/
theorem endOf?_append_blank (hc : Text.isBlank c = true) (h : endOf? b l = none)
    (s : List Char) : endOf? b (l ++ c :: s) = none := by
  rw [Option.eq_none_iff_forall_ne_some]
  rintro ⟨target, rest⟩ heq
  obtain ⟨hopen, htarget, hl⟩ := endOf?_eq_some_iff.1 heq
  have hends : ∀ rest, l ≠ linkEnd target ++ rest := fun rest hrest => by
    rw [endOf?_eq_some_iff.2 ⟨hopen, htarget, hrest⟩] at h
    cases h
  rcases List.append_eq_append_iff.1 hl with ⟨more, hmore, hs⟩ | ⟨more, hmore, -⟩
  · cases more with
    | nil => exact hends [] (by rw [hmore, List.append_nil, List.append_nil])
    | cons d more =>
      refine not_mem_linkEnd hc htarget ?_
      rw [hmore, (List.cons.inj hs).1]
      simp
  · exact hends more hmore

/-- A scan can be cut in two at a blank. -/
theorem exists_scan_blank (base : Url) (b : Bracket) (l : List Char) (hc : Text.isBlank c = true) :
    ∃ b' : Bracket, b' ≠ .bang ∧ ∀ s, scan base b (l ++ c :: s) =
      scan base b l ++ c :: scan base b' s := by
  have hne : c ≠ ']' ∧ c ≠ '!' := by
    constructor
    · rintro rfl
      cases hc
    · rintro rfl
      cases hc
  fun_induction scan base b l with
  | case1 b =>
    exact ⟨b.next c, Bracket.next_ne_bang hne.2, fun s => scan_cons (endOf?_eq_none hne.1 s)⟩
  | case2 b d l target rest hend _ ih =>
    obtain ⟨hopen, htarget, hl⟩ := endOf?_eq_some_iff.1 hend
    obtain ⟨b', hb', hscan⟩ := ih
    refine ⟨b', hb', fun s => ?_⟩
    rw [hl, List.append_assoc, scan_linkEnd hopen htarget, hscan, List.append_assoc]
  | case3 b d l hend ih =>
    obtain ⟨b', hb', hscan⟩ := ih
    refine ⟨b', hb', fun s => ?_⟩
    have hnone := endOf?_append_blank hc hend s
    rw [List.cons_append] at hnone ⊢
    rw [scan_cons hnone, hscan, List.cons_append]

/-- Blanks at the end of a text stay, and nothing else changes by them. -/
theorem scan_append_blanks (base : Url) (b : Bracket) (l : List Char)
    (h : ∀ c ∈ s, Text.isBlank c = true) : scan base b (l ++ s) = scan base b l ++ s := by
  cases s with
  | nil => rw [List.append_nil, List.append_nil]
  | cons c s =>
    obtain ⟨hc, hs⟩ := List.forall_mem_cons.1 h
    obtain ⟨b', -, hscan⟩ := exists_scan_blank base b l hc
    have hfree : ']' ∉ s := fun hmem => by cases hs _ hmem
    rw [hscan, scan_eq_self fun hin => hfree (hin.subset List.mem_cons_self)]

/-- Where a text ends does not change. -/
theorem getLast?_scan (base : Url) (b : Bracket) (s : List Char) :
    (scan base b s).getLast? = s.getLast? := by
  fun_induction scan base b s with
  | case1 => rfl
  | case2 b c s target rest hend _ ih =>
    have hlast : ∀ t, (linkEnd t).getLast? = some ')' := fun t =>
      List.getLast?_concat (l := ']' :: '(' :: t)
    rw [(endOf?_eq_some_iff.1 hend).2.2, List.getLast?_append, List.getLast?_append, ih, hlast,
      hlast]
  | case3 b c s hend ih => rw [List.getLast?_cons, List.getLast?_cons, ih]

theorem dropEndWhile_scan (base : Url) (b : Bracket) (s : List Char) :
    Text.dropEndWhile Text.isBlank (scan base b s) =
      scan base b (Text.dropEndWhile Text.isBlank s) := by
  obtain ⟨back, hs, hback⟩ := Text.exists_append_dropEndWhile Text.isBlank s
  conv_lhs => rw [hs, scan_append_blanks base b _ hback, Text.dropEndWhile_append hback]
  refine Text.dropEndWhile_eq_self fun c hc => ?_
  rw [getLast?_scan] at hc
  exact Text.getLast?_dropEndWhile hc

theorem mem_of_mem_written (h : c ∈ b.written base target) : c ∈ target ∨
    ∃ text url, base.join text = .ok url ∧ c ∈ url.toString.toList := by
  unfold Bracket.written absoluteTarget at h
  split at h
  · split at h
    · exact .inl h
    · split at h
      · next url hurl => exact .inr ⟨_, url, hurl, h⟩
      · exact .inl h
  · exact .inl h

/-- What is new in a text comes from URLs. -/
theorem mem_of_mem_scan (h : c ∈ scan base b s) : c ∈ s ∨
    ∃ text url, base.join text = .ok url ∧ c ∈ url.toString.toList := by
  fun_induction scan base b s with
  | case1 => exact .inl h
  | case2 b d s target rest hend _ ih =>
    rw [(endOf?_eq_some_iff.1 hend).2.2, List.mem_append, mem_linkEnd]
    rcases List.mem_append.1 h with h | h
    · rcases mem_linkEnd.1 h with h | h
      · exact .inl (.inl (.inl h))
      · exact (mem_of_mem_written h).imp_left fun h => .inl (.inr h)
    · exact (ih h).imp_left .inr
  | case3 b d s hend ih =>
    rcases List.mem_cons.1 h with rfl | h
    · exact .inl List.mem_cons_self
    · exact (ih h).imp_left (List.mem_cons_of_mem d)

end Markdown

end ContextCompiler
