import ContextCompiler.Proofs.Url.Written

/-!
URLs stand on one line.

Each part of a URL that was read is escaped, or it was checked character by character, so that no
part holds a line feed. A URL that is joined to another takes over parts of it, and so stands on one
line as well.
-/

namespace ContextCompiler

/-! ## Escaped texts -/

theorem Text.feed_not_mem_percentEncode {p : Char → Bool} (hfeed : p '\n' = true)
    (hp : p '%' = false) (hd : ∀ n < 16, p (hexDigit n) = false) (s : List Char) :
    '\n' ∉ percentEncode p s := fun hmem => by
  rw [not_escaped_percentEncode hp hd _ hmem] at hfeed
  cases hfeed

theorem Host.PlainText.feed_not_mem {s : List Char} (h : PlainText s) : '\n' ∉ s := fun hmem => by
  have hplain := h.2 _ hmem
  revert hplain
  decide

namespace Url

variable {scheme s : List Char} {authority : Option Authority} {a : Authority} {base u : Url}
  {names : List (List Char)} {text : String}

/-- A URL whose parts hold no line feed. -/
structure IsOneLine (u : Url) : Prop where
  scheme : '\n' ∉ u.scheme
  authority : ∀ a, u.authority = some a → '\n' ∉ authorityChars a
  path : '\n' ∉ UrlPath.toChars u.path
  query : ∀ q, u.query = some q → '\n' ∉ q
  fragment : ∀ f, u.fragment = some f → '\n' ∉ f

theorem IsOneLine.toString (h : u.IsOneLine) : '\n' ∉ u.toString.toList := by
  have hpart : ∀ (mark : Char) (part : Option (List Char)), mark ≠ '\n' →
      (∀ q, part = some q → '\n' ∉ q) → '\n' ∉ (part.map (mark :: ·)).getD [] := by
    intro mark part hmark hall
    cases part with
    | none => exact List.not_mem_nil
    | some q =>
      rw [Option.map_some, Option.getD_some, List.mem_cons, not_or]
      exact ⟨hmark.symm, hall q rfl⟩
  have hhead : '\n' ∉ u.headChars := by
    unfold headChars
    cases hauthority : u.authority with
    | some a => simpa using h.authority a hauthority
    | none =>
      split
      · next heq => cases heq
      · decide
      · exact List.not_mem_nil
  rw [toList_toString, tailChars]
  simp only [List.mem_append, List.mem_cons, not_or]
  exact ⟨h.scheme, by decide, hhead, ⟨h.path, hpart '?' _ (by decide) h.query⟩,
    hpart '#' _ (by decide) h.fragment⟩

/-! ## Authorities -/

theorem feed_not_mem_of_readHost {host : Host} (h : readHost scheme s = .ok host) :
    '\n' ∉ host.toChars := by
  unfold readHost at h
  split at h
  · exact (Host.plainText_of_read h).feed_not_mem
  · unfold Host.readPlain at h
    split at h
    · exact (Host.plainText_of_bracketed? h).feed_not_mem
    · split at h
      · cases h
      · cases h
        exact Text.feed_not_mem_percentEncode (by decide) (by decide) (by decide) _

theorem feed_not_mem_authorityChars (huser : '\n' ∉ a.user) (hpassword : '\n' ∉ a.password)
    (hhost : '\n' ∉ a.host.toChars) : '\n' ∉ authorityChars a := by
  have hport : ∀ n : Nat, '\n' ∉ (ToString.toString n).toList := fun n hmem => by
    have hplain := Host.isPlainChar_toString n _ hmem
    revert hplain
    decide
  have huserChars : '\n' ∉ userChars a := by
    unfold userChars
    dsimp only
    split
    · exact List.not_mem_nil
    · split <;> simp [huser, hpassword]
  have hhostChars : '\n' ∉ hostChars a := by
    unfold hostChars
    dsimp only
    split
    · next n _ =>
      simp only [List.mem_append, List.mem_cons, not_or]
      exact ⟨hhost, by decide, hport n⟩
    · simpa using hhost
  exact fun hmem => (List.mem_append.1 hmem).elim huserChars hhostChars

theorem feed_not_mem_of_readAuthority (h : readAuthority scheme s = .ok a) :
    '\n' ∉ authorityChars a := by
  obtain ⟨huser, hpassword, text, hhost⟩ := readAuthority_eq_ok h
  have hescaped := Text.feed_not_mem_percentEncode (p := escapedInUser) (by decide) (by decide)
    (by decide)
  exact feed_not_mem_authorityChars (huser ▸ hescaped _) (hpassword ▸ hescaped _)
    (feed_not_mem_of_readHost hhost)

/-! ## Paths, queries and fragments -/

theorem forall_mem_shorten (isFile : Bool) (h : ∀ n ∈ names, '\n' ∉ n) :
    ∀ n ∈ shorten isFile names, '\n' ∉ n := by
  unfold shorten
  split
  · split
    · exact h
    · exact fun _ hn => absurd hn List.not_mem_nil
  · exact fun n hn => h n (List.dropLast_subset _ hn)

/-- A walk along pieces comes through names without line feeds. -/
theorem forall_mem_walk (isFile : Bool) (ps : List (List Char)) (h : ∀ n ∈ names, '\n' ∉ n) :
    ∀ n ∈ walk isFile names ps, '\n' ∉ n := by
  have hending : ∀ (isLast : Bool) (names : List (List Char)), (∀ n ∈ names, '\n' ∉ n) →
      ∀ n ∈ (if isLast then names ++ [[]] else names), '\n' ∉ n := by
    intro isLast names h
    split
    · exact List.forall_mem_append.2 ⟨h, List.forall_mem_singleton.2 List.not_mem_nil⟩
    · exact h
  induction ps generalizing names with
  | nil => exact h
  | cons p rest ih =>
    unfold walk
    simp only
    split
    · exact ih (hending _ _ h)
    · exact ih (hending _ _ (forall_mem_shorten isFile h))
    · exact ih (List.forall_mem_append.2 ⟨h, List.forall_mem_singleton.2
        (Text.feed_not_mem_percentEncode (by decide) (by decide) (by decide) _)⟩)

theorem feed_not_mem_segments : '\n' ∉ UrlPath.toChars (.segments names) ↔
    ∀ n ∈ names, '\n' ∉ n := by
  simp [UrlPath.toChars]

theorem feed_not_mem_queryAndFragment (special : Bool) (s : List Char) :
    (∀ q, (queryAndFragment special s).1 = some q → '\n' ∉ q) ∧
      ∀ f, (queryAndFragment special s).2 = some f → '\n' ∉ f := by
  have hfragment : ∀ s, '\n' ∉ Text.percentEncode escapedInFragment s :=
    Text.feed_not_mem_percentEncode (by decide) (by decide) (by decide)
  have hquery : ∀ s, '\n' ∉ Text.percentEncode (escapedInQuery special) s := by
    cases special <;> exact Text.feed_not_mem_percentEncode (by decide) (by decide) (by decide)
  unfold queryAndFragment
  split
  · refine ⟨fun q hq => ?_, fun f hf => ?_⟩
    · cases hq
      exact hquery _
    · simp only at hf
      split at hf
      · cases hf
        exact hfragment _
      · cases hf
  · refine ⟨nofun, fun f hf => ?_⟩
    simp only at hf
    split at hf
    · cases hf
      exact hfragment _
    · cases hf

/-! ## Reading -/

theorem isOneLine_withPath {start : List (List Char)} (hscheme : '\n' ∉ scheme)
    (hauthority : ∀ a, authority = some a → '\n' ∉ authorityChars a)
    (hstart : ∀ n ∈ start, '\n' ∉ n) (s : List Char) :
    (withPath scheme authority start s).IsOneLine := by
  obtain ⟨hquery, hfragment⟩ := feed_not_mem_queryAndFragment (isSpecial scheme) (cutPath s).2
  exact ⟨hscheme, hauthority, feed_not_mem_segments.2 (forall_mem_walk _ _ hstart), hquery,
    hfragment⟩

theorem isOneLine_fromRoot (hscheme : '\n' ∉ scheme)
    (hauthority : ∀ a, authority = some a → '\n' ∉ authorityChars a) (s : List Char) :
    (fromRoot scheme authority s).IsOneLine := by
  unfold fromRoot
  simp only
  split
  · obtain ⟨hquery, hfragment⟩ := feed_not_mem_queryAndFragment (isSpecial scheme) (cutPath s).2
    refine ⟨hscheme, hauthority, feed_not_mem_segments.2 fun n hn => ?_, hquery, hfragment⟩
    split at hn
    · rw [List.mem_singleton.1 hn]
      exact List.not_mem_nil
    · cases hn
  · exact isOneLine_withPath hscheme hauthority (fun _ hn => absurd hn List.not_mem_nil) _

theorem isOneLine_afterSlashes (hscheme : '\n' ∉ scheme) (h : afterSlashes scheme s = .ok u) :
    u.IsOneLine := by
  unfold afterSlashes at h
  simp only at h
  obtain ⟨a, ha, h⟩ := except_bind_eq_ok.1 h
  cases h
  refine isOneLine_fromRoot hscheme (fun a' ha' => ?_) _
  cases ha'
  exact feed_not_mem_of_readAuthority ha

theorem isOneLine_relative (hbase : base.IsOneLine) (hnames : base.path = .segments names)
    (h : relative base names s = .ok u) : u.IsOneLine := by
  unfold relative at h
  simp only at h
  split at h
  · cases h
    exact { hbase with fragment := nofun }
  · cases h
    obtain ⟨hquery, hfragment⟩ := feed_not_mem_queryAndFragment (isSpecial base.scheme) ('?' :: _)
    exact { hbase with query := hquery, fragment := hfragment }
  · cases h
    obtain ⟨-, hfragment⟩ := feed_not_mem_queryAndFragment (isSpecial base.scheme) ('#' :: _)
    exact { hbase with fragment := hfragment }
  · split at h
    · split at h
      · exact isOneLine_afterSlashes hbase.scheme h
      · split at h
        · exact isOneLine_afterSlashes hbase.scheme h
        · cases h
          exact isOneLine_fromRoot hbase.scheme hbase.authority _
    · cases h
      refine isOneLine_withPath hbase.scheme hbase.authority (forall_mem_shorten _ ?_) _
      rw [← feed_not_mem_segments, ← hnames]
      exact hbase.path

theorem isOneLine_readOther (hscheme : '\n' ∉ scheme) (h : readOther scheme s = .ok u) :
    u.IsOneLine := by
  unfold readOther at h
  split at h
  · exact isOneLine_afterSlashes hscheme h
  · cases h
    refine isOneLine_fromRoot hscheme (fun a ha => ?_) _
    cases ha
  · cases h
    obtain ⟨hquery, hfragment⟩ := feed_not_mem_queryAndFragment false (cutPath _).2
    exact ⟨hscheme, nofun, Text.feed_not_mem_percentEncode (by decide) (by decide) (by decide) _,
      hquery, hfragment⟩

theorem feed_not_mem_of_readFileHost {host : Host} (h : readFileHost s = .ok host) :
    '\n' ∉ host.toChars := by
  unfold readFileHost at h
  split at h
  · cases h
    exact List.not_mem_nil
  · split at h
    · next n hn =>
      cases h
      split
      · exact List.not_mem_nil
      · exact (Host.plainText_of_read hn).feed_not_mem
    · exact (Host.plainText_of_read h).feed_not_mem

theorem isOneLine_readFile {origin : Option Url} (horigin : ∀ b, origin = some b → b.IsOneLine)
    (h : readFile origin s = .ok u) : u.IsOneLine := by
  have hscheme : '\n' ∉ "file".toList := by decide
  have hnowhere : ∀ a, some (⟨[], [], .name [], none⟩ : Authority) = some a →
      '\n' ∉ authorityChars a := by
    rintro _ ⟨⟩
    exact List.not_mem_nil
  unfold readFile at h
  simp only at h
  split at h
  · split at h
    · next b =>
      split at h
      · next names hnames =>
        split at h
        · cases h
          exact isOneLine_fromRoot hscheme hnowhere _
        · exact isOneLine_relative (horigin b rfl) hnames h
      · cases h
        exact isOneLine_fromRoot hscheme hnowhere _
    · cases h
      exact isOneLine_fromRoot hscheme hnowhere _
  · split at h
    · next b =>
      split at h
      · split at h
        · cases h
          exact isOneLine_fromRoot hscheme hnowhere _
        · cases h
          exact isOneLine_fromRoot hscheme (horigin b rfl).authority _
      · cases h
        exact isOneLine_fromRoot hscheme (horigin b rfl).authority _
    · cases h
      exact isOneLine_fromRoot hscheme hnowhere _
  · split at h
    · cases h
      exact isOneLine_fromRoot hscheme hnowhere _
    · obtain ⟨host, hhost, rfl⟩ := except_map_eq_ok.1 h
      refine isOneLine_fromRoot hscheme (fun a ha => ?_) _
      cases ha
      exact feed_not_mem_authorityChars List.not_mem_nil List.not_mem_nil
        (feed_not_mem_of_readFileHost hhost)

theorem feed_not_mem_of_scheme? {rest : List Char} (h : scheme? s = some (scheme, rest)) :
    '\n' ∉ scheme := fun hmem => by
  have hchar := (schemeForm_of_scheme? h).chars _ hmem
  revert hchar
  decide

theorem isOneLine_readWith {origin : Option Url} (horigin : ∀ b, origin = some b → b.IsOneLine)
    (h : readWith origin text = .ok u) : u.IsOneLine := by
  unfold readWith at h
  simp only at h
  split at h
  · next scheme rest hscheme =>
    have hfeed := feed_not_mem_of_scheme? hscheme
    split at h
    · exact isOneLine_readFile (fun b hb => horigin b (Option.filter_eq_some_iff.1 hb).1) h
    · split at h
      · split at h
        · next b =>
          split at h
          · next names hnames =>
            split at h
            · exact isOneLine_relative (horigin b rfl) hnames h
            · exact isOneLine_afterSlashes hfeed h
          · exact isOneLine_afterSlashes hfeed h
        · exact isOneLine_afterSlashes hfeed h
      · exact isOneLine_readOther hfeed h
  · split at h
    · cases h
    · next b =>
      have hbase := horigin b rfl
      split at h
      · split at h
        · cases h
          exact { hbase with fragment := (feed_not_mem_queryAndFragment false _).2 }
        · cases h
      · next names hnames =>
        split at h
        · exact isOneLine_readFile horigin h
        · exact isOneLine_relative hbase hnames h

/-- A URL that was read stands on one line. -/
theorem isOneLine_of_read (h : read text = .ok u) : u.IsOneLine := by
  refine isOneLine_readWith (fun b hb => ?_) h
  cases hb

/-- A URL that is joined to one that stands on one line stands on one line. -/
theorem isOneLine_of_join (hbase : base.IsOneLine) (h : join base text = .ok u) : u.IsOneLine := by
  refine isOneLine_readWith (fun b hb => ?_) h
  cases hb
  exact hbase

end Url

end ContextCompiler
