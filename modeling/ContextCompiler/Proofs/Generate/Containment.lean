import ContextCompiler.Generate.Run
import ContextCompiler.Proofs.Output.Write

/-!
Where a run writes.

`writes` has the paths that a run hands on to be written, in order, with their texts. Each of them
goes down from the output directory along names. An output path that does not is refused, and its
document fails; to the other documents it makes no difference whether that one is there.
-/

namespace ContextCompiler

/-! ## Refused output paths -/

namespace Output

variable {root path target : String} {names : List String} {ps : List Path.Part}

/-- An output path that leads out of the output directory, or to nothing in it. -/
def IsRefused (path : String) : Prop :=
  Text.trim path = "" ∨ Path.isAbsolute (Text.trim path) = true ∨
    .up ∈ Path.parts (Text.trim path) ∨ ∀ n, .name n ∉ Path.parts (Text.trim path)

theorem root_mem_parts_iff : .root ∈ Path.parts path ↔ Path.isAbsolute path = true := by
  have hpart : ∀ first piece, Path.partOf? first piece ≠ some .root := fun first piece h => by
    rcases Path.partOf?_cases h with ⟨-, h⟩ | h | ⟨h, -⟩ <;> cases h
  have hrest : ∀ pieces, .root ∉ List.filterMap (Path.partOf? false) pieces := fun pieces h => by
    obtain ⟨piece, -, h⟩ := List.mem_filterMap.1 h
    exact hpart _ _ h
  cases hsplit : Text.split '/' path with
  | nil => exact absurd (List.map_eq_nil_iff.1 hsplit) (Text.splitOn_ne_nil _ _)
  | cons piece rest =>
    rw [Path.parts, hsplit]
    dsimp only
    split
    · next habs => exact iff_of_true List.mem_cons_self habs
    · next habs =>
      refine iff_of_false (fun h => ?_) habs
      rcases List.mem_append.1 h with h | h
      · exact hpart _ _ (Option.mem_toList.1 h)
      · exact hrest rest h

theorem mem_partNames (h : partNames path ps = .ok names) {n : String} (hn : .name n ∈ ps) :
    n ∈ names := by
  fun_induction partNames path ps generalizing names with
  | case1 => exact absurd hn List.not_mem_nil
  | case2 s rest ih =>
    obtain ⟨names', hrest, h⟩ := except_bind_eq_ok.1 h
    cases h
    rcases List.mem_cons.1 hn with hn | hn
    · cases hn
      exact List.mem_cons_self
    · exact List.mem_cons_of_mem _ (ih hrest hn)
  | case3 rest ih => exact ih h ((List.mem_cons.1 hn).resolve_left (by simp))
  | case4 => cases h
  | case5 => cases h

theorem exists_partNames_iff :
    (∃ names, partNames path ps = .ok names) ↔ .up ∉ ps ∧ .root ∉ ps := by
  fun_induction partNames path ps with
  | case1 => exact ⟨fun _ => ⟨List.not_mem_nil, List.not_mem_nil⟩, fun _ => ⟨[], rfl⟩⟩
  | case2 s rest ih =>
    simp only [List.mem_cons, reduceCtorEq, false_or, ← ih, except_bind_eq_ok]
    constructor
    · rintro ⟨_, names, h, -⟩
      exact ⟨names, h⟩
    · rintro ⟨names, h⟩
      exact ⟨_, names, h, rfl⟩
  | case3 rest ih => simpa using ih
  | case4 => exact iff_of_false (by simp) fun h => h.1 List.mem_cons_self
  | case5 => exact iff_of_false (by simp) fun h => h.2 List.mem_cons_self

/-- Only a refused output path has no target. -/
theorem exists_resolve_iff (root path : String) :
    (∃ target, resolve root path = .ok target) ↔ ¬ IsRefused path := by
  simp only [resolve, except_mapError_eq_ok, place]
  rw [IsRefused, ← root_mem_parts_iff, not_or, not_or, not_or]
  constructor
  · rintro ⟨target, h⟩
    obtain ⟨hne, h⟩ := except_check_eq_ok.1 h
    obtain ⟨names, hnames, h⟩ := except_bind_eq_ok.1 h
    obtain ⟨hsome, -⟩ := except_check_eq_ok.1 h
    obtain ⟨hup, hroot⟩ := exists_partNames_iff.1 ⟨names, hnames⟩
    refine ⟨hne, hroot, hup, fun hnone => hsome ?_⟩
    rw [List.isEmpty_iff, List.eq_nil_iff_forall_not_mem]
    exact fun n hn => hnone n (mem_of_partNames hnames n hn)
  · rintro ⟨hne, hroot, hup, hname⟩
    obtain ⟨names, hnames⟩ : ∃ names, partNames path (Path.parts (Text.trim path)) = .ok names :=
      exists_partNames_iff.2 ⟨hup, hroot⟩
    obtain ⟨n, hn⟩ := not_forall_not.1 hname
    refine ⟨Path.join root (Text.join "/" names), except_check_eq_ok.2 ⟨hne, ?_⟩⟩
    refine except_bind_eq_ok.2 ⟨names, hnames, except_check_eq_ok.2 ⟨fun hempty => ?_, rfl⟩⟩
    rw [List.isEmpty_iff] at hempty
    exact absurd (mem_partNames hnames hn) (hempty ▸ List.not_mem_nil)

/-- The parts of a target are those of the output directory, and names. -/
theorem IsTarget.parts (h : IsTarget root names target) :
    Path.parts target = Path.parts root ++ names.map .name := by
  obtain ⟨habs, hsplit⟩ := h.split
  exact Path.parts_of_split habs hsplit fun n hn => (h.isName n hn).1

end Output

namespace CompiledDocument

variable {root : String} {before s : Storage} {docs : List CompiledDocument} {d : CompiledDocument}
  {cancelled : Bool}

/-! ## What is handed on to be written -/

/-- The path that a document is written to, if it is written. -/
def writtenTo? (d : CompiledDocument) (root : String) (before : Storage) (cancelled : Bool) :
    Option String :=
  if cancelled then none
  else (Output.resolve root d.outputPath).toOption.filter fun target =>
    d.overwrite || !before.isThere target

/-- The paths that a run writes to, in order, with the texts for them. -/
def writes (root : String) (before : Storage) :
    Option Nat → List CompiledDocument → List (String × String)
  | _, [] => []
  | left, d :: rest =>
    ((d.writtenTo? root before (left == some 0)).map fun target => (target, d.content)).toList ++
      writes root before (left.map (· - 1)) rest

/-- Writes texts to their paths, one after the other. -/
def perform (s : Storage) (ws : List (String × String)) : Storage :=
  ws.foldl (fun s w => (Output.write s w.1 w.2).1) s

theorem perform_append (s : Storage) (ws ws' : List (String × String)) :
    perform s (ws ++ ws') = perform (perform s ws) ws' :=
  List.foldl_append

/-- A document changes the files by what it hands on to be written. -/
theorem write_fst (d : CompiledDocument) (root : String) (before : Storage) (cancelled : Bool)
    (s : Storage) : (d.write root before cancelled s).1 =
      perform s
        ((d.writtenTo? root before cancelled).map fun target => (target, d.content)).toList := by
  unfold write writtenTo?
  cases hresolve : Output.resolve root d.outputPath with
  | error e => cases cancelled <;> rfl
  | ok target =>
    dsimp only
    split
    · rfl
    · have hkeep : (d.overwrite || !before.isThere target) =
          !(!d.overwrite && before.isThere target) := by
        rw [Bool.not_and, Bool.not_not]
      rw [Except.toOption, Option.filter_some, hkeep]
      split
      · next hskip =>
        rw [hskip]
        rfl
      · next hwrite =>
        rw [Bool.not_eq_true] at hwrite
        rw [hwrite]
        split
        · next h => exact (congrArg Prod.fst h).symm
        · next h => exact (congrArg Prod.fst h).symm

/-- A run changes the files by what it hands on to be written. -/
theorem writeAll_fst_eq_perform (root : String) (before : Storage) (left : Option Nat) (s : Storage)
    (docs : List CompiledDocument) :
    (writeAll root before left s docs).1 = perform s (writes root before left docs) := by
  induction docs generalizing left s with
  | nil => rfl
  | cons d rest ih =>
    rw [writeAll, writes, perform_append, ← write_fst]
    exact ih _ _

theorem resolve_of_writtenTo? {target : String}
    (h : d.writtenTo? root before cancelled = some target) :
    Output.resolve root d.outputPath = .ok target := by
  unfold writtenTo? at h
  split at h
  · cases h
  · have hresolve := (Option.filter_eq_some_iff.1 h).1
    cases hd : Output.resolve root d.outputPath with
    | error e =>
      rw [hd] at hresolve
      cases hresolve
    | ok t =>
      rw [hd] at hresolve
      cases hresolve
      rfl

theorem exists_isTarget_of_mem_writes {left : Option Nat} {target content : String}
    (h : (target, content) ∈ writes root before left docs) :
    ∃ names, Output.IsTarget root names target := by
  induction docs generalizing left with
  | nil => exact absurd h List.not_mem_nil
  | cons d rest ih =>
    rw [writes] at h
    rcases List.mem_append.1 h with h | h
    · obtain ⟨target', htarget, hsame⟩ := Option.map_eq_some_iff.1 (Option.mem_toList.1 h)
      cases hsame
      exact Output.isTarget_of_resolve (resolve_of_writtenTo? htarget)
    · exact ih h

/-! ## Runs in two parts -/

theorem writeAll_cons (root : String) (before : Storage) (left : Option Nat) (s : Storage)
    (d : CompiledDocument) (rest : List CompiledDocument) :
    writeAll root before left s (d :: rest) =
      let first := d.write root before (left == some 0) s
      let others := writeAll root before (left.map (· - 1)) first.1 rest
      (others.1, first.2.1 :: others.2.1, first.2.2.append others.2.2) :=
  rfl

theorem left_cons (left : Option Nat) (d : CompiledDocument) (rest : List CompiledDocument) :
    (left.map (· - 1)).map (· - rest.length) = left.map (· - (d :: rest).length) := by
  cases left with
  | none => rfl
  | some n =>
    refine congrArg some ?_
    dsimp only [List.length_cons]
    omega

theorem writeAll_append (root : String) (before : Storage) (left : Option Nat) (s : Storage)
    (front back : List CompiledDocument) :
    writeAll root before left s (front ++ back) =
      let first := writeAll root before left s front
      let others := writeAll root before (left.map (· - front.length)) first.1 back
      (others.1, first.2.1 ++ others.2.1, first.2.2.append others.2.2) := by
  induction front generalizing left s with
  | nil => cases left <;> rfl
  | cons d rest ih =>
    simp only [List.cons_append, writeAll_cons, ih, ← left_cons left d rest, ErrorLog.append_assoc]

theorem writes_append (root : String) (before : Storage) (left : Option Nat)
    (front back : List CompiledDocument) :
    writes root before left (front ++ back) =
      writes root before left front ++ writes root before (left.map (· - front.length)) back := by
  induction front generalizing left with
  | nil => cases left <;> rfl
  | cons d rest ih =>
    rw [List.cons_append, writes, ih, writes, ← left_cons left d rest, List.append_assoc]

theorem length_reports (root : String) (before : Storage) (left : Option Nat) (s : Storage)
    (docs : List CompiledDocument) :
    (writeAll root before left s docs).2.1.length = docs.length := by
  induction docs generalizing left s with
  | nil => rfl
  | cons d rest ih => rw [writeAll_cons, List.length_cons, List.length_cons, ih]

theorem not_cancelled_of_pos {n : Nat} (h : 0 < n) : (some n == some 0) = false :=
  beq_eq_false_iff_ne.2 fun hzero => absurd (Option.some.inj hzero) (Nat.ne_of_gt h)

/-- A run that is called off after its last document is not called off. -/
theorem writeAll_of_length_le {n : Nat} (h : docs.length ≤ n) (root : String) (before s : Storage) :
    writeAll root before (some n) s docs = writeAll root before none s docs := by
  induction docs generalizing n s with
  | nil => rfl
  | cons d rest ih =>
    rw [List.length_cons] at h
    have hn := not_cancelled_of_pos (n := n) (by omega)
    have hrest := ih (n := n - 1) (by omega)
    rw [writeAll_cons, writeAll_cons, hn, Option.map_some]
    simp only [hrest]
    rfl

theorem writes_of_length_le {n : Nat} (h : docs.length ≤ n) (root : String) (before : Storage) :
    writes root before (some n) docs = writes root before none docs := by
  induction docs generalizing n with
  | nil => rfl
  | cons d rest ih =>
    rw [List.length_cons] at h
    rw [writes, writes, not_cancelled_of_pos (by omega), Option.map_some, ih (by omega)]
    rfl

/-! ## Documents that are refused -/

/-- The number of documents that are looked at before a run is called off, when the one at a
position is left out. -/
def leftWithout (position : Nat) (left : Option Nat) : Option Nat :=
  left.map fun n => if position < n then n - 1 else n

theorem leftWithout_sub (position : Nat) (left : Option Nat) :
    (leftWithout position left).map (· - position) = (left.map (· - position)).map (· - 1) := by
  cases left with
  | none => rfl
  | some n =>
    refine congrArg some ?_
    dsimp only
    split <;> omega

/-- The documents before a position do not tell whether the one there is left out. -/
theorem writeAll_leftWithout (root : String) (before : Storage) (left : Option Nat) (s : Storage)
    (docs : List CompiledDocument) :
    writeAll root before (leftWithout docs.length left) s docs =
      writeAll root before left s docs := by
  cases left with
  | none => rfl
  | some n =>
    rw [leftWithout, Option.map_some]
    split
    · next h =>
      rw [writeAll_of_length_le (by omega), writeAll_of_length_le (by omega)]
    · rfl

theorem writes_leftWithout (root : String) (before : Storage) (left : Option Nat)
    (docs : List CompiledDocument) :
    writes root before (leftWithout docs.length left) docs = writes root before left docs := by
  cases left with
  | none => rfl
  | some n =>
    rw [leftWithout, Option.map_some]
    split
    · next h =>
      rw [writes_of_length_le (by omega), writes_of_length_le (by omega)]
    · rfl

/-- A refused document changes no file and fails. -/
theorem write_of_isRefused (h : Output.IsRefused d.outputPath) (root : String) (before : Storage)
    (cancelled : Bool) (s : Storage) :
    d.writtenTo? root before cancelled = none ∧ ∃ message,
      d.write root before cancelled s =
        (s, ⟨root, d.outputPath, .error, d.errors.messages ++ [message]⟩,
          d.errors.add d.outputPath message) := by
  cases hresolve : Output.resolve root d.outputPath with
  | ok target => exact absurd h ((Output.exists_resolve_iff root d.outputPath).1 ⟨target, hresolve⟩)
  | error e =>
    refine ⟨?_, e.message, ?_⟩
    · rw [writtenTo?, hresolve]
      cases cancelled <;> rfl
    · rw [write, hresolve]
      simp only [report, ErrorLog.hasErrors_add, if_true, ErrorLog.messages_add]

/-- A run writes below its output directory only: each path that it hands on to be written has the
parts of the output directory first, and names behind them. A document with an output path that
does not lead there fails and is not written, and all else is as it is without that document. -/
theorem writeAll_contained (root : String) (before : Storage) (left : Option Nat) (s : Storage)
    (docs : List CompiledDocument) :
    (writeAll root before left s docs).1 = perform s (writes root before left docs) ∧
    (∀ target content, (target, content) ∈ writes root before left docs →
      ∃ names : List String, names ≠ [] ∧ (∀ n ∈ names, Storage.IsName n ∧ '/' ∉ n.toList) ∧
        Path.parts target = Path.parts root ++ names.map .name) ∧
    ∀ front d back, docs = front ++ d :: back → Output.IsRefused d.outputPath →
      writes root before left docs =
        writes root before (leftWithout front.length left) (front ++ back) ∧
      ∃ (after : Storage) (message : String) (reports reports' : List DocumentReport)
          (errors errors' : ErrorLog), reports.length = front.length ∧
        writeAll root before left s docs =
          (after,
            reports ++ ⟨root, d.outputPath, .error, d.errors.messages ++ [message]⟩ :: reports',
            errors.append ((d.errors.add d.outputPath message).append errors')) ∧
        writeAll root before (leftWithout front.length left) s (front ++ back) =
          (after, reports ++ reports', errors.append errors') := by
  refine ⟨writeAll_fst_eq_perform root before left s docs, fun target content h => ?_, ?_⟩
  · obtain ⟨names, ht⟩ := exists_isTarget_of_mem_writes h
    exact ⟨names, ht.ne_nil, ht.isName, ht.parts⟩
  · rintro front d back rfl hrefused
    constructor
    · have hnone := (write_of_isRefused hrefused root before
        (left.map (· - front.length) == some 0) s).1
      rw [writes_append, writes_append, writes_leftWithout, leftWithout_sub, writes, hnone]
      rfl
    · obtain ⟨-, message, hwrite⟩ := write_of_isRefused hrefused root before
        (left.map (· - front.length) == some 0) (writeAll root before left s front).1
      let first := writeAll root before left s front
      let others :=
        writeAll root before ((left.map (· - front.length)).map (· - 1)) first.1 back
      refine ⟨others.1, message, first.2.1, others.2.1, first.2.2, others.2.2,
        length_reports root before left s front, ?_, ?_⟩
      · simp only [writeAll_append, writeAll_cons, hwrite, first, others]
      · rw [writeAll_append, writeAll_leftWithout, leftWithout_sub]

/-- A document that should be written beside the output directory. -/
def stray : CompiledDocument := ⟨"b/../../c", true, "text", .empty⟩

theorem stray_contained :
    Output.IsRefused stray.outputPath ∧
      ∀ (before s : Storage) (front back : List CompiledDocument),
        writes "/o" before none (front ++ stray :: back) = writes "/o" before none (front ++ back) ∧
        (writeAll "/o" before none s (front ++ stray :: back)).1 =
          (writeAll "/o" before none s (front ++ back)).1 := by
  have hrefused : Output.IsRefused stray.outputPath := .inr (.inr (.inl (by decide)))
  refine ⟨hrefused, fun before s front back => ?_⟩
  obtain ⟨-, -, h⟩ := writeAll_contained "/o" before none s (front ++ stray :: back)
  obtain ⟨hwrites, _, _, _, _, _, _, -, hrun, hrun'⟩ := h front stray back rfl hrefused
  exact ⟨hwrites, (congrArg Prod.fst hrun).trans (congrArg Prod.fst hrun').symm⟩

end CompiledDocument

end ContextCompiler
