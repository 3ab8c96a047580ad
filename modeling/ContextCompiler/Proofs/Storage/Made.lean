import ContextCompiler.Proofs.Storage.Change

/-!
Which directories are made.

Whoever makes the directory of a path makes those above it that are missing. What is added then are
directories alone, and each of them is where that directory or one above it leads.
-/

namespace ContextCompiler

namespace Path

/-- A directory that a path lies in, at any distance. -/
inductive Above : String → String → Prop
  | parent {dir path : String} : parent? path = some dir → Above dir path
  | next {dir mid path : String} : parent? path = some mid → Above dir mid → Above dir path

end Path

namespace Storage

variable {s s' s'' : Storage} {p : Place} {path dir : String}

/-- A directory is made where nothing stood before, and its path leads there. -/
theorem makeDirectory_eq_ok (h : s.makeDirectory path = .ok s') :
    ∃ p, p ≠ [] ∧ s.get? p = none ∧ s' = s.put p .directory ∧ s'.locate path = .ok p := by
  unfold makeDirectory at h
  obtain ⟨hpath, h⟩ := except_check_eq_ok.1 h
  dsimp only at h
  split at h
  · cases h
  · next name front hpieces =>
    obtain ⟨dir, hdir, h⟩ := except_bind_eq_ok.1 h
    obtain ⟨hp, h⟩ := except_check_eq_ok.1 h
    obtain ⟨hname, h⟩ := except_check_eq_ok.1 h
    obtain ⟨hsize, h⟩ := except_check_eq_ok.1 h
    rw [bne_iff_ne, not_not] at hp
    split at h
    · cases h
    · next hnone =>
      cases h
      refine ⟨dir ++ [name], by simp, hnone, rfl, ?_⟩
      obtain ⟨idle, hsplit, hne, hidle, -⟩ := exists_of_withoutIdleEnd hpieces
      have hadd : s.AddsDirectories (s.put (dir ++ [name]) .directory) := .put (by simp) hnone
      have hplace : (s.put (dir ++ [name]) .directory).get? (dir ++ [name]) = some .directory := by
        rw [get?_put (by simp), if_pos rfl]
      have hdir' := hadd.keeps.directory dir hp
      have hisName : IsName name :=
        ⟨hne, fun e => hname (by simp [e]), fun e => hname (by simp [e])⟩
      obtain ⟨left, hleads⟩ := leads_of_follow hdir
      have hdown := (hleads.keep hadd.keeps (by rw [hdir']; rfl)).trans
        (.enter hdir' hisName (Nat.not_lt.1 hsize) hplace (by simp) .done)
      rw [locate, if_neg hpath, start_eq, hadd.keeps.base_eq]
      rw [start_eq] at hsplit
      dsimp only at hsplit ⊢
      rw [hsplit, List.append_cons front.reverse]
      exact (hdown.append_idle hplace fun n hn => .inl (hidle n hn)).follow

/-- Nothing is added but directories that `path` or a path above it leads to. -/
structure MakesDirectories (s : Storage) (path : String) (s' : Storage) : Prop where
  adds : s.AddsDirectories s'
  made : ∀ p, s.get? p = none → s'.get? p = some .directory →
    ∃ dir, (dir = path ∨ Path.Above dir path) ∧ s'.locate dir = .ok p

namespace MakesDirectories

theorem refl (s : Storage) (path : String) : s.MakesDirectories path s :=
  ⟨.refl s, fun _ hnone hdir => nomatch hnone.symm.trans hdir⟩

theorem trans (h : s.MakesDirectories path s') (h' : s'.MakesDirectories path s'') :
    s.MakesDirectories path s'' where
  adds := h.adds.trans h'.adds
  made p hnone hdir := by
    rcases h.adds.get? p with hp | ⟨-, hp⟩
    · exact h'.made p (hp.trans hnone) hdir
    · obtain ⟨dir, habove, hlocate⟩ := h.made p hnone hp
      exact ⟨dir, habove, h'.adds.keeps.locate hlocate (by rw [hdir]; rfl)⟩

/-- What is made for the directory of a path is made for the path. -/
theorem of_parent (h : s.MakesDirectories dir s') (hdir : Path.parent? path = some dir) :
    s.MakesDirectories path s' where
  adds := h.adds
  made p hnone hp := by
    obtain ⟨d, habove, hlocate⟩ := h.made p hnone hp
    refine ⟨d, .inr ?_, hlocate⟩
    rcases habove with rfl | habove
    · exact .parent hdir
    · exact .next hdir habove

theorem of_makeDirectory (h : s.makeDirectory path = .ok s') : s.MakesDirectories path s' where
  adds := addsDirectories_of_makeDirectory h
  made p hnone hdir := by
    obtain ⟨q, hq, -, rfl, hlocate⟩ := makeDirectory_eq_ok h
    rw [get?_put hq] at hdir
    split at hdir
    · next e => exact ⟨path, .inl rfl, e ▸ hlocate⟩
    · exact nomatch hnone.symm.trans hdir

end MakesDirectories

theorem makesDirectories_makeDirectories (fuel : Nat) (s : Storage) (path : String) :
    s.MakesDirectories path (s.makeDirectories fuel path).1 := by
  fun_induction s.makeDirectories fuel path with
  | case1 => exact .refl s _
  | case2 => exact .refl s _
  | case3 _ _ _ s' h => exact .of_makeDirectory h
  | case4 => exact .refl s _
  | case5 _ _ _ _ _ hparent s' _ hrest ih =>
    rw [hrest] at ih
    exact ih.of_parent hparent
  | case6 _ _ _ _ _ hparent s' hrest s'' h ih =>
    rw [hrest] at ih
    exact (ih.of_parent hparent).trans (.of_makeDirectory h)
  | case7 _ _ _ _ _ _ hparent s' hrest _ _ ih =>
    rw [hrest] at ih
    exact ih.of_parent hparent
  | case8 => exact .refl s _

end Storage

end ContextCompiler
