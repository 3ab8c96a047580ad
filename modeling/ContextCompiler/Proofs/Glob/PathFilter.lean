import ContextCompiler.Glob.PathFilter
import ContextCompiler.Proofs.Glob.Match
import ContextCompiler.Proofs.Storage.Directory
import ContextCompiler.Proofs.Storage.Walk

/-!
What the entries of a filter hit below a directory.

An entry that is a part of a path, or a pattern that keeps to one segment, hits all that is below
what it hits. A pattern on the whole path may hit a directory and nothing below it.
-/

namespace ContextCompiler

namespace Text

/-- A text occurs in another when the other is the text with something on either side. -/
theorem occursIn_iff {p s : List Char} : occursIn p s = true ↔ p <:+: s := by
  induction s with
  | nil => rw [occursIn, List.isEmpty_iff, List.infix_nil]
  | cons c s ih =>
    rw [occursIn, Bool.or_eq_true, List.isPrefixOf_iff_prefix, ih, List.infix_cons_iff]

theorem split_append_sep {c : Char} {sep a b : String} (hsep : sep.toList = [c]) :
    split c (a ++ sep ++ b) = split c a ++ split c b := by
  simp only [split, String.toList_append, hsep, List.append_assoc, List.singleton_append,
    splitOn_append_cons, List.map_append]

theorem join_append {sep : String} {front back : List String} (hfront : front ≠ [])
    (hback : back ≠ []) : join sep (front ++ back) = join sep front ++ sep ++ join sep back := by
  refine String.toList_injective ?_
  simp only [join, List.map_append, String.toList_append, String.toList_ofList]
  exact joinWith_append (by simpa using hfront) (by simpa using hback)

end Text

namespace PathMatcher

variable {m : PathMatcher} {entry dir rel : String}

/-- An entry that hits all that is below what it hits: no pattern, or one that fits no slash. -/
def IsInherited : PathMatcher → Prop
  | glob g => ∀ t ∈ g.tokens, t.IsWithin
  | part _ => True

theorem isInherited_ofString
    (h : Glob.hasWildcard entry = true → GlobToken.KeepsToSegment entry.toList) :
    (ofString entry).IsInherited := by
  unfold ofString
  split
  · next hwild => exact fun t => (h hwild).isWithin
  · trivial

theorem IsInherited.hits (h : m.IsInherited) (hdir : m.hits dir = true) :
    m.hits (dir ++ "/" ++ rel) = true := by
  cases m with
  | part s =>
    unfold PathMatcher.hits Text.contains at *
    rw [Text.occursIn_iff] at *
    simp only [String.toList_append, List.append_assoc]
    exact hdir.trans (List.prefix_append _ _).isInfix
  | glob g =>
    unfold PathMatcher.hits at *
    rw [Bool.or_eq_true, List.any_eq_true] at *
    refine .inr ?_
    rw [Text.split_append_sep rfl]
    rcases hdir with hdir | ⟨segment, hsegment, hmatch⟩
    · -- a match of the whole has no slash, so it is the one segment
      have hslash : '/' ∉ dir.toList := fun hmem => by
        rw [Glob.isMatch_eq] at hdir
        exact Glob.not_mem_of_matchTokens h hdir (List.mem_map.2 ⟨'/', hmem, rfl⟩)
      rw [Text.split_of_not_mem hslash]
      exact ⟨dir, List.mem_append_left _ (List.mem_singleton_self dir), hdir⟩
    · exact ⟨segment, List.mem_append_left _ hsegment, hmatch⟩

end PathMatcher

namespace PathFilter

variable {f : PathFilter} {dir names : List String}

/-- Below an excluded directory all is excluded, where all exclude entries are inherited. -/
theorem isExcluded_of_isOver (h : ∀ m ∈ f.excludes, m.IsInherited) (hover : Place.IsOver dir names)
    (hdir : f.isExcluded (Text.join "/" dir) = true) :
    f.isExcluded (Text.join "/" names) = true := by
  obtain ⟨hne, hlast, rest, rfl⟩ := hover
  rw [isExcluded, List.any_eq_true] at hdir ⊢
  obtain ⟨m, hm, hhits⟩ := hdir
  refine ⟨m, hm, ?_⟩
  rw [Text.join_append hne fun hnil => hlast (by rw [hnil, List.append_nil])]
  exact (h m hm).hits hhits

theorem isExcluded_of_selects {path : String} (h : f.selects path = true) :
    f.isExcluded path = false := by
  rw [selects, Bool.and_eq_true, Bool.not_eq_true'] at h
  exact h.2

theorem isInherited_of_mem_ofLists {filePattern path notPath : List String}
    (h : ∀ entry ∈ notPath, Glob.hasWildcard entry = true →
      GlobToken.KeepsToSegment entry.toList) :
    ∀ m ∈ (ofLists filePattern path notPath).excludes, m.IsInherited := by
  intro m hm
  obtain ⟨entry, hentry, rfl⟩ := List.mem_map.1 hm
  exact PathMatcher.isInherited_ofString (h entry (List.mem_of_mem_filter hentry))

end PathFilter

end ContextCompiler
