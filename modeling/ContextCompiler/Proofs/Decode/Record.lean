import ContextCompiler.Proofs.Json.Value

/-!
Records out of objects.

The entries of an object are read in their order, but each sets its own field. So a record comes out
as if every rule looked its field up in the object, in the order of the rules.
-/

namespace ContextCompiler

/-! ## Nodes of values -/

namespace Node

mutual

theorem skipFault_ofJson : (v : Json) → (ofJson v).skipFault = none
  | .null => rfl
  | .bool _ => rfl
  | .int _ => rfl
  | .float _ => rfl
  | .str _ => rfl
  | .arr items => by rw [ofJson, skipFault, skipItems_ofItems items]; rfl
  | .obj fields => by rw [ofJson, skipFault, skipEntries_ofFields fields]; rfl

theorem skipItems_ofItems : (vs : List Json) → skipItems (ofItems vs) = none
  | [] => rfl
  | v :: vs => by rw [ofItems, skipItems, skipFault_ofJson v, skipItems_ofItems vs]; rfl

theorem skipEntries_ofFields : (fs : List (String × Json)) → skipEntries (ofFields fs) = none
  | [] => rfl
  | (_, v) :: fs => by
    rw [ofFields, skipEntries, skipFault_ofJson v, skipEntries_ofFields fs]
    rfl

end

mutual

/-- The node of a value is as it is when read as a whole. -/
theorem buffer_ofJson : (v : Json) → (ofJson v).buffer = .ok (ofJson v)
  | .null => rfl
  | .bool _ => rfl
  | .int _ => rfl
  | .float _ => rfl
  | .str _ => rfl
  | .arr items => by rw [ofJson, buffer, bufferItems_ofItems items]; rfl
  | .obj fields => by rw [ofJson, buffer, bufferEntries_ofFields fields]; rfl

theorem bufferItems_ofItems : (vs : List Json) → bufferItems (ofItems vs) = .ok (ofItems vs)
  | [] => rfl
  | v :: vs => by rw [ofItems, bufferItems, buffer_ofJson v, bufferItems_ofItems vs]; rfl

theorem bufferEntries_ofFields :
    (fs : List (String × Json)) → bufferEntries (ofFields fs) = .ok (ofFields fs)
  | [] => rfl
  | (_, v) :: fs => by
    rw [ofFields, bufferEntries, buffer_ofJson v, bufferEntries_ofFields fs]
    rfl

end

theorem refuse_ne_ok {α : Type} (n : Node) (expected : String) (a : α) :
    n.refuse expected ≠ .ok a := by
  intro h
  obtain ⟨found, -, h⟩ := except_bind_eq_ok.1 h
  cases h

end Node

namespace FieldRule

variable {σ ρ α β : Type} {rules : List (FieldRule σ)} {rule : FieldRule σ} {k name : String}
  {v : Json} {fs : List (String × Json)} {seen : List String} {acc acc' start : σ} {f : σ → σ}

/-! ## Fields by their rules -/

/-- What a rule sets in a record, given the fields of an object. -/
def setIn (fs : List (String × Json)) (rule : FieldRule σ) : Decoded (σ → σ) :=
  match fs.lookup rule.name with
  | none => .ok id
  | some v => rule.read (.ofJson v)

/-- Sets the fields of a record in the order of the rules. -/
def setFields (fs : List (String × Json)) : List (FieldRule σ) → σ → Decoded σ
  | [], acc => .ok acc
  | rule :: rules, acc => do
    let set ← setIn fs rule
    setFields fs rules (set acc)

/-- What two rules set can be set in either order. -/
def Commute (r s : FieldRule σ) : Prop :=
  ∀ m n f g, r.read m = .ok f → s.read n = .ok g → ∀ x, g (f x) = f (g x)

/-- Rules of different fields, each of one name. -/
structure AreApart (rules : List (FieldRule σ)) : Prop where
  no_aliases : ∀ r ∈ rules, r.aliases = []
  apart : rules.Pairwise fun r s => r.name ≠ s.name ∧ Commute r s

theorem commute_of_set {name name' : String} {read : Node → Decoded α} {read' : Node → Decoded β}
    {set : α → σ → σ} {set' : β → σ → σ} (h : ∀ a b x, set' b (set a x) = set a (set' b x))
    {required required' : Bool} :
    Commute ⟨name, [], required, fun n => set <$> read n⟩
      ⟨name', [], required', fun n => set' <$> read' n⟩ := by
  intro m n f g hf hg x
  obtain ⟨a, -, rfl⟩ := except_map_eq_ok.1 hf
  obtain ⟨b, -, rfl⟩ := except_map_eq_ok.1 hg
  exact h a b x

theorem AreApart.pair {name name' : String} {read : Node → Decoded α} {read' : Node → Decoded β}
    {set : α → σ → σ} {set' : β → σ → σ} (hname : name ≠ name')
    (h : ∀ a b x, set' b (set a x) = set a (set' b x)) :
    AreApart [mayHave name read set, mayHave name' read' set'] := by
  refine ⟨by simp [mayHave], List.pairwise_pair.2 ⟨hname, commute_of_set h⟩⟩

theorem setIn_of_none (h : fs.lookup rule.name = none) : setIn fs rule = .ok id := by
  rw [setIn, h]

theorem setIn_of_some (h : fs.lookup rule.name = some v) :
    setIn fs rule = rule.read (.ofJson v) := by
  rw [setIn, h]

theorem setIn_cons_of_ne (h : rule.name ≠ k) : setIn ((k, v) :: fs) rule = setIn fs rule := by
  rw [setIn, setIn, lookup_entry, if_neg h]

theorem setFields_nil (rules : List (FieldRule σ)) (acc : σ) :
    setFields [] rules acc = .ok acc := by
  induction rules with
  | nil => rfl
  | cons rule rules ih => exact ih

theorem setFields_cons_of_ne (h : ∀ r ∈ rules, r.name ≠ k) (acc : σ) :
    setFields ((k, v) :: fs) rules acc = setFields fs rules acc := by
  induction rules generalizing acc with
  | nil => rfl
  | cons rule rules ih =>
    obtain ⟨hrule, hrules⟩ := List.forall_mem_cons.1 h
    rw [setFields, setFields, setIn_cons_of_ne hrule]
    exact congrArg _ (funext fun set => ih hrules (set acc))

theorem setIn_ok (h : setFields fs rules acc = .ok acc') (hrule : rule ∈ rules) :
    ∃ f, setIn fs rule = .ok f := by
  induction rules generalizing acc with
  | nil => cases hrule
  | cons r rules ih =>
    obtain ⟨f, hf, hrest⟩ := except_bind_eq_ok.1 h
    rcases List.mem_cons.1 hrule with rfl | hrule
    · exact ⟨f, hf⟩
    · exact ih hrest hrule

/-- A field that stands in front may be set first. -/
theorem setFields_cons (hapart : AreApart rules) (hrule : rule ∈ rules)
    (hread : rule.read (.ofJson v) = .ok f) (hfs : fs.lookup rule.name = none) (acc : σ) :
    setFields ((rule.name, v) :: fs) rules acc = setFields fs rules (f acc) := by
  induction rules generalizing acc with
  | nil => cases hrule
  | cons r rules ih =>
    obtain ⟨hfirst, hrest⟩ := List.pairwise_cons.1 hapart.apart
    have hapart' : AreApart rules :=
      ⟨fun s hs => hapart.no_aliases s (List.mem_cons_of_mem r hs), hrest⟩
    rcases List.mem_cons.1 hrule with rfl | hrule
    · have hset : setIn ((rule.name, v) :: fs) rule = .ok f := by
        rw [setIn_of_some (by rw [lookup_entry, if_pos rfl]), hread]
      rw [setFields, setFields, hset, setIn_of_none hfs]
      exact setFields_cons_of_ne (fun s hs => (hfirst s hs).1.symm) (f acc)
    · obtain ⟨hne, hcommute⟩ := hfirst rule hrule
      rw [setFields, setFields, setIn_cons_of_ne hne]
      cases hset : setIn fs r with
      | error e => rfl
      | ok g =>
        have hg : f (g acc) = g (f acc) := by
          rw [setIn] at hset
          split at hset
          · cases hset
            rfl
          · exact hcommute _ _ _ _ hset hread acc
        show setFields ((rule.name, v) :: fs) rules (g acc) = setFields fs rules (g (f acc))
        rw [ih hapart' hrule, hg]

/-! ## Entries in their order -/

/-- Whether a key is that of a field. -/
def isRuled (rules : List (FieldRule σ)) (k : String) : Bool := rules.any (·.isNamed k)

theorem isNamed_iff (h : rule.aliases = []) : rule.isNamed k = true ↔ rule.name = k := by
  simp [isNamed, h]

theorem ruleOf_str (rules : List (FieldRule σ)) (k : String) :
    ruleOf .value rules (.str k) = .ok (rules.find? (·.isNamed k)) := rfl

theorem find?_eq_some (hapart : AreApart rules) (h : rules.find? (·.isNamed k) = some rule) :
    rule ∈ rules ∧ rule.name = k ∧ isRuled rules k = true := by
  have hmem := List.mem_of_find?_eq_some h
  have hnamed := List.find?_some h
  exact ⟨hmem, (isNamed_iff (hapart.no_aliases rule hmem)).1 hnamed,
    List.any_eq_true.2 ⟨rule, hmem, hnamed⟩⟩

theorem find?_eq_none (hapart : AreApart rules) (h : rules.find? (·.isNamed k) = none) :
    (∀ r ∈ rules, r.name ≠ k) ∧ isRuled rules k = false := by
  rw [List.find?_eq_none] at h
  exact ⟨fun r hr hk => h r hr ((isNamed_iff (hapart.no_aliases r hr)).2 hk),
    List.any_eq_false.2 h⟩

/-- The entries of an object set the fields of a record as the rules do. Those of no rule go to
`other`, in their order. -/
theorem readEntries_ofFields (hapart : AreApart rules) {other : ρ → Node → Node → Decoded ρ}
    (put : ρ → String × Json → ρ)
    (hother : ∀ rest k v, other rest (.str k) (.ofJson v) = .ok (put rest (k, v)))
    (hkeys : (fs.map Prod.fst).Nodup) (hseen : ∀ f ∈ fs, f.1 ∉ seen)
    (h : setFields fs rules acc = .ok acc') (rest : ρ) :
    readEntries .value rules other none seen acc rest (Node.ofFields fs) =
      .ok (((fs.map Prod.fst).filter (isRuled rules)).reverse ++ seen, acc',
        (fs.filter fun f => !isRuled rules f.1).foldl put rest) := by
  induction fs generalizing seen acc rest with
  | nil =>
    rw [setFields_nil] at h
    cases h
    rfl
  | cons f fs ih =>
    obtain ⟨k, v⟩ := f
    rw [List.map_cons, List.nodup_cons] at hkeys
    obtain ⟨hk, hseen'⟩ := List.forall_mem_cons.1 hseen
    rw [Node.ofFields, readEntries, ruleOf_str, List.map_cons, List.filter_cons, List.filter_cons]
    cases hfind : rules.find? (·.isNamed k) with
    | none =>
      obtain ⟨hne, hruled⟩ := find?_eq_none hapart hfind
      rw [setFields_cons_of_ne hne] at h
      have hrest := ih hkeys.2 hseen' h (put rest (k, v))
      rw [hruled]
      show (other rest (.str k) (.ofJson v) >>= fun rest => _) = _
      rw [hother]
      exact hrest
    | some rule =>
      obtain ⟨hmem, rfl, hruled⟩ := find?_eq_some hapart hfind
      obtain ⟨set, hset⟩ := setIn_ok h hmem
      rw [setIn_of_some (by rw [lookup_entry, if_pos rfl])] at hset
      rw [setFields_cons hapart hmem hset (lookup_eq_none_iff_not_mem.2 hkeys.1)] at h
      have hmore : ∀ f ∈ fs, f.1 ∉ rule.name :: seen := fun f hf => by
        rw [List.mem_cons, not_or]
        exact ⟨fun hname => hkeys.1 (List.mem_map.2 ⟨f, hf, hname⟩), hseen' f hf⟩
      have hrest := ih hkeys.2 hmore h rest
      have hfresh : seen.contains rule.name = false := by simpa using hk
      rw [hruled, if_pos rfl, List.reverse_cons, List.append_assoc]
      show (if seen.contains rule.name = true then _ else _) = _
      rw [hfresh, if_neg Bool.false_ne_true]
      show (rule.read (.ofJson v) >>= fun set => _) = _
      rw [hset]
      exact hrest

/-! ## Records -/

theorem checkRequired_ok (h : ∀ r ∈ rules, r.required = true → r.name ∈ seen) :
    checkRequired rules seen = .ok () := by
  have hfind : rules.find? (fun r => r.required && !seen.contains r.name) = none := by
    rw [List.find?_eq_none]
    intro r hr hmissing
    rw [Bool.and_eq_true, Bool.not_eq_true', List.contains_eq_mem, decide_eq_false_iff_not]
      at hmissing
    exact hmissing.2 (h r hr hmissing.1)
  rw [checkRequired, hfind]
  rfl

theorem mem_read_keys (hapart : AreApart rules) (hrule : rule ∈ rules)
    (hkey : rule.name ∈ fs.map Prod.fst) :
    rule.name ∈ ((fs.map Prod.fst).filter (isRuled rules)).reverse ++ [] := by
  rw [List.append_nil, List.mem_reverse, List.mem_filter]
  exact ⟨hkey, List.any_eq_true.2
    ⟨rule, hrule, (isNamed_iff (hapart.no_aliases rule hrule)).2 rfl⟩⟩

variable {d : Dialect} {label : String} {fromList : Bool} {a : σ}

/-- A record of an object, field by field. -/
theorem record_ofJson (hapart : AreApart rules) (hkeys : (fs.map Prod.fst).Nodup)
    (hrequired : ∀ r ∈ rules, r.required = true → r.name ∈ fs.map Prod.fst)
    (h : setFields fs rules start = .ok a) :
    record .value label rules start fromList (.ofJson (.obj fs)) = .ok a := by
  have hother : ∀ (rest : Unit) (k : String) (v : Json),
      skipField rest (.str k) (.ofJson v) = .ok () := fun _ _ v => by
    rw [skipField, Node.skipFault_ofJson]
    rfl
  have hread := readEntries_ofFields hapart (fun _ _ => ()) hother hkeys
    (fun _ _ => List.not_mem_nil) h ()
  have hcheck := checkRequired_ok fun r hr hreq => mem_read_keys hapart hr (hrequired r hr hreq)
  rw [Node.ofJson]
  unfold record
  dsimp only
  rw [hread]
  show (checkRequired rules _ >>= fun _ => pure a) = .ok a
  rw [hcheck]
  rfl

theorem mapM_str {ns : List (Node × Node)} (h : ∀ e ∈ ns, ∃ k, e.1 = .str k) :
    (ns.mapM fun (k, v) => do pure (Node.str (← Dialect.value.string k), v)) =
      (.ok ns : Decoded (List (Node × Node))) := by
  induction ns with
  | nil => rfl
  | cons e ns ih =>
    obtain ⟨⟨k, hk⟩, hns⟩ := List.forall_mem_cons.1 h
    obtain ⟨key, v⟩ := e
    obtain rfl : key = .str k := hk
    rw [List.mapM_cons, ih hns]
    rfl

theorem exists_str_of_mem_ofFields {e : Node × Node} (h : e ∈ Node.ofFields fs) :
    ∃ k, e.1 = .str k := by
  induction fs with
  | nil => cases h
  | cons f fs ih =>
    rcases List.mem_cons.1 h with rfl | h
    · exact ⟨f.1, rfl⟩
    · exact ih h

theorem foldl_concat_ofFields (fs : List (String × Json)) (kept : List (Node × Node)) :
    fs.foldl (fun kept f => kept ++ [(Node.str f.1, Node.ofJson f.2)]) kept =
      kept ++ Node.ofFields fs := by
  induction fs generalizing kept with
  | nil => exact (List.append_nil kept).symm
  | cons f fs ih =>
    rw [List.foldl_cons, ih, Node.ofFields, List.append_assoc, List.singleton_append]

/-- A record of an object with the fields of no rule, which are kept as they are. -/
theorem openRecord_ofJson (hapart : AreApart rules) (hkeys : (fs.map Prod.fst).Nodup)
    (hrequired : ∀ r ∈ rules, r.required = true → r.name ∈ fs.map Prod.fst)
    (h : setFields fs rules start = .ok a) :
    openRecord .value label rules start (.ofJson (.obj fs)) =
      .ok (a, Node.ofFields (fs.filter fun f => !isRuled rules f.1)) := by
  have hother : ∀ (kept : List (Node × Node)) (k : String) (v : Json),
      keepField kept (.str k) (.ofJson v) = .ok (kept ++ [(.str k, .ofJson v)]) := fun _ _ v => by
    rw [keepField, Node.buffer_ofJson]
    rfl
  have hread := readEntries_ofFields hapart
    (fun kept f => kept ++ [(Node.str f.1, Node.ofJson f.2)]) hother hkeys
    (fun _ _ => List.not_mem_nil) h []
  rw [foldl_concat_ofFields, List.nil_append] at hread
  have hcheck := checkRequired_ok fun r hr hreq => mem_read_keys hapart hr (hrequired r hr hreq)
  rw [Node.ofJson]
  unfold openRecord
  dsimp only
  rw [hread]
  show (checkRequired rules _ >>= fun _ => _) = _
  rw [hcheck]
  exact congrArg (· >>= fun kept => pure (a, kept)) (mapM_str fun _ => exists_str_of_mem_ofFields)

/-! ## What every record keeps -/

/-- What holds at the start, and is kept by the fields of rules and by the others, holds at the
end. -/
theorem readEntries_invariant {P : σ → ρ → Prop} {Q : Json → Prop}
    {other : ρ → Node → Node → Decoded ρ}
    (hrules : ∀ r ∈ rules, ∀ v f, Q v → r.read (.ofJson v) = .ok f →
      ∀ x rest, P x rest → P (f x) rest)
    (hother : ∀ k, rules.find? (·.isNamed k) = none → ∀ v x rest rest',
      other rest (.str k) (.ofJson v) = .ok rest' → P x rest → P x rest')
    (hfs : ∀ f ∈ fs, Q f.2) {rest rest' : ρ} (hacc : P acc rest) {seen' : List String}
    (h : readEntries .value rules other none seen acc rest (Node.ofFields fs) =
      .ok (seen', acc', rest')) : P acc' rest' := by
  induction fs generalizing seen acc rest with
  | nil =>
    cases h
    exact hacc
  | cons f fs ih =>
    obtain ⟨k, v⟩ := f
    obtain ⟨hv, hfs'⟩ := List.forall_mem_cons.1 hfs
    rw [Node.ofFields, readEntries, ruleOf_str] at h
    obtain ⟨found, hfound, h⟩ := except_bind_eq_ok.1 h
    cases hfound
    split at h
    · next rule hrule =>
      rw [except_check_eq_ok] at h
      obtain ⟨set, hset, h⟩ := except_bind_eq_ok.1 h.2
      exact ih hfs' (hrules rule (List.mem_of_find?_eq_some hrule) v set hv hset acc rest hacc) h
    · next hnone =>
      obtain ⟨more, hmore, h⟩ := except_bind_eq_ok.1 h
      exact ih hfs' (hother k hnone v acc rest more hmore hacc) h

theorem readItems_invariant {P : σ → Prop} {total used : Nat} {items : List Json}
    (hrules : ∀ r ∈ rules, ∀ v f, v.IsFinite → r.read (.ofJson v) = .ok f → ∀ x, P x → P (f x))
    (hitems : ∀ v ∈ items, v.IsFinite) (hacc : P acc)
    (h : readItems .value label total none used rules acc (Node.ofItems items) = .ok a) : P a := by
  induction rules generalizing used acc items with
  | nil =>
    rw [readItems] at h
    obtain ⟨_, -, h⟩ := except_bind_eq_ok.1 h
    cases h
    exact hacc
  | cons rule rules ih =>
    obtain ⟨hrule, hrest⟩ := List.forall_mem_cons.1 hrules
    cases items with
    | nil =>
      have hnext : readItems .value label total none (used + 1) rules acc [] = .ok a := by
        rw [Node.ofItems] at h
        unfold readItems at h
        exact (except_check_eq_ok.1 h).2
      exact ih hrest hitems hacc hnext
    | cons v items =>
      obtain ⟨hv, hitems'⟩ := List.forall_mem_cons.1 hitems
      rw [Node.ofItems, readItems] at h
      obtain ⟨set, hset, h⟩ := except_bind_eq_ok.1 h
      exact ih hrest hitems' (hrule v set hv hset acc hacc) h

/-- What holds at the start and is kept by every field holds of the record. -/
theorem record_invariant {P : σ → Prop} {j : Json}
    (hrules : ∀ r ∈ rules, ∀ v f, v.IsFinite → r.read (.ofJson v) = .ok f → ∀ x, P x → P (f x))
    (hj : j.IsFinite) (hstart : P start)
    (h : record .value label rules start fromList (.ofJson j) = .ok a) : P a := by
  cases hj with
  | arr hitems =>
    rw [Node.ofJson] at h
    unfold record at h
    dsimp only at h
    split at h
    · exact readItems_invariant hrules hitems hstart h
    · exact absurd h (Node.refuse_ne_ok _ _ _)
  | obj hfields =>
    rw [Node.ofJson] at h
    unfold record at h
    dsimp only at h
    obtain ⟨⟨seen, acc, rest⟩, hread, h⟩ := except_bind_eq_ok.1 h
    obtain ⟨_, -, h⟩ := except_bind_eq_ok.1 h
    cases h
    exact readEntries_invariant (P := fun x _ => P x)
      (fun r hr v f hv hf x _ => hrules r hr v f hv hf x) (fun _ _ _ _ _ _ _ hx => hx) hfields
      hstart hread
  | _ => exact absurd h (Node.refuse_ne_ok _ _ _)

/-- The fields that are kept are those of no rule. -/
theorem not_isRuled_of_kept (hapart : AreApart rules) {kept : List (Node × Node)}
    {seen' : List String}
    (h : readEntries .value rules keepField none seen acc [] (Node.ofFields fs) =
      .ok (seen', acc', kept)) : ∀ e ∈ kept, ∃ k, e.1 = .str k ∧ isRuled rules k = false := by
  refine readEntries_invariant (Q := fun _ => True)
    (P := fun _ (kept : List (Node × Node)) =>
      ∀ e ∈ kept, ∃ k, e.1 = .str k ∧ isRuled rules k = false)
    (fun _ _ _ _ _ _ _ _ hkept => hkept) (fun k hnone v _ kept more hmore hkept => ?_)
    (fun _ _ => trivial) (List.forall_mem_nil _) h
  rw [keepField, Node.buffer_ofJson] at hmore
  cases hmore
  exact List.forall_mem_append.2
    ⟨hkept, List.forall_mem_singleton.2 ⟨k, rfl, (find?_eq_none hapart hnone).2⟩⟩

theorem not_isRuled_of_openRecord (hapart : AreApart rules) {j : Json}
    {rest : List (Node × Node)}
    (h : openRecord .value label rules start (.ofJson j) = .ok (a, rest)) :
    ∀ e ∈ rest, ∃ k, e.1 = .str k ∧ isRuled rules k = false := by
  cases j with
  | obj fs =>
    rw [Node.ofJson] at h
    unfold openRecord at h
    dsimp only at h
    obtain ⟨⟨seen, acc, kept⟩, hread, h⟩ := except_bind_eq_ok.1 h
    obtain ⟨_, -, h⟩ := except_bind_eq_ok.1 h
    have hkept := not_isRuled_of_kept hapart hread
    dsimp only at h
    rw [mapM_str fun e he => (hkept e he).imp fun _ hk => hk.1] at h
    cases h
    exact hkept
  | _ => exact absurd h (Node.refuse_ne_ok _ _ _)

end FieldRule

/-! ## Values that are read in any order of their fields -/

section Reads

variable {σ α : Type} {read : Node → Decoded α} {v : Json} {x usual : α}
  {fs gs : List (String × Json)} {name : String}

/-- Whether a value is read as given, in whatever order the fields of its objects come. -/
def Reads (read : Node → Decoded α) (v : Json) (x : α) : Prop :=
  ∀ w, v.IsReordered w → read (.ofJson w) = .ok x

theorem reads_string (d : Dialect) (s : String) : Reads d.string (.str s) s := by
  intro w hw
  cases hw
  exact Json.stringAs_str d _ s

theorem reads_json (d : Dialect) (h : v.IsNormal) : Reads d.json v v :=
  fun _ hw => h.json_ofJson d hw

theorem Reads.optional (h : Reads read v x) (hv : v ≠ .null) :
    Reads (Dialect.value.optional read) v (some x) := by
  intro w hw
  have hne : w ≠ .null := by
    rintro rfl
    cases hw
    exact hv rfl
  rw [Json.optional_ofJson hne, h w hw]
  rfl

theorem reads_list {encode : α → Json} {xs : List α} (h : ∀ x ∈ xs, Reads read (encode x) x) :
    Reads (Dialect.value.list read) (.arr (xs.map encode)) xs := by
  intro w hw
  obtain ⟨items, rfl, hitems⟩ := hw.exists_arr
  clear hw
  show Dialect.listItems read none (Node.ofItems items) = .ok xs
  rw [List.forall₂_map_left_iff] at hitems
  induction hitems with
  | nil => rfl
  | @cons x w' xs items hw' _ ih =>
    obtain ⟨hx, hxs⟩ := List.forall_mem_cons.1 h
    rw [Node.ofItems, Dialect.listItems, hx w' hw']
    show (Dialect.listItems read none (Node.ofItems items) >>= fun rest => pure (x :: rest)) = _
    rw [ih hxs]
    rfl

/-- How an object has a field of a record: it is read as given, or it is missing and the value is
the usual one. -/
def HasField (fs : List (String × Json)) (name : String) (read : Node → Decoded α) (usual x : α) :
    Prop :=
  (fs.lookup name = none ∧ x = usual) ∨ ∃ v, fs.lookup name = some v ∧ Reads read v x

theorem HasField.missing (h : fs.lookup name = none) (hx : x = usual) :
    HasField fs name read usual x :=
  .inl ⟨h, hx⟩

theorem HasField.given (usual : α) (hv : fs.lookup name = some v) (hread : Reads read v x) :
    HasField fs name read usual x :=
  .inr ⟨v, hv, hread⟩

namespace FieldRule

variable {rules : List (FieldRule σ)} {set : α → σ → σ} {acc : σ}

theorem setFields_set (hfs : ∀ k, Option.Rel Json.IsReordered (fs.lookup k) (gs.lookup k))
    (h : HasField fs name read usual x) (husual : set usual acc = acc) (required : Bool) :
    setFields gs (⟨name, [], required, fun n => set <$> read n⟩ :: rules) acc =
      setFields gs rules (set x acc) := by
  have hname := hfs name
  rcases h with ⟨hnone, rfl⟩ | ⟨v, hv, hread⟩
  · rw [hnone] at hname
    rw [setFields, setIn_of_none (eq_none_of_rel hname), husual]
    rfl
  · rw [hv] at hname
    obtain ⟨w, hw, hvw⟩ := exists_of_rel hname
    rw [setFields, setIn_of_some hw]
    dsimp only
    rw [hread w hvw]
    rfl

theorem setFields_mayHave (hfs : ∀ k, Option.Rel Json.IsReordered (fs.lookup k) (gs.lookup k))
    (h : HasField fs name read usual x) (husual : set usual acc = acc) :
    setFields gs (mayHave name read set :: rules) acc = setFields gs rules (set x acc) :=
  setFields_set hfs h husual false

theorem setFields_mustHave (hfs : ∀ k, Option.Rel Json.IsReordered (fs.lookup k) (gs.lookup k))
    (h : HasField fs name read usual x) (husual : set usual acc = acc) :
    setFields gs (mustHave name read set :: rules) acc = setFields gs rules (set x acc) :=
  setFields_set hfs h husual true

end FieldRule

end Reads

end ContextCompiler
