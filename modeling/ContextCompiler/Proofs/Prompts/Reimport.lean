import ContextCompiler.Config.Prompt
import ContextCompiler.Proofs.Decode.Record

/-!
Prompts and tools that are given out and read again.

What is left out of a prompt as a data value is what a prompt has of itself, and the further keys of
a tool are none of its own. So both come back from their data values, in whatever order the fields
of these come.
-/

namespace ContextCompiler

open FieldRule

variable {k name : String} {v w : Json} {fs gs : List (String × Json)}

/-! ## Messages and inheritance -/

theorem Message.reads (m : Message) : Reads (Message.read .value) m.toJson m := by
  intro w hw
  have hobj : Json.IsReordered (.obj [("role", .str m.role), ("content", .str m.content)]) w := hw
  obtain ⟨gs, rfl, hkeys, hgs⟩ := hobj.exists_lookup (by simp)
  rw [Message.read]
  refine record_ofJson (.pair (by decide) fun _ _ _ => rfl) hkeys (by simp [mayHave]) ?_
  rw [setFields_mayHave hgs (.given "" (by simp) (reads_string _ m.role)) rfl,
    setFields_mayHave hgs (.given "" (by simp [lookup_entry]) (reads_string _ m.content)) rfl]
  rfl

theorem mapEntries_ofFields {read : Node → Decoded String} (hread : ∀ s, read (.str s) = .ok s)
    {es : List (String × String)} {m : SortedMap String}
    (h : List.Forall₂ (fun e f => e.1 = f.1 ∧ (Json.str e.2).IsReordered f.2) es fs) :
    Dialect.mapEntries .value read none m (Node.ofFields fs) =
      .ok (es.foldl (fun m e => m.insert e.1 e.2) m) := by
  induction h generalizing m with
  | nil => rfl
  | @cons e f es fs hf _ ih =>
    obtain ⟨k, s⟩ := e
    obtain ⟨j, v⟩ := f
    obtain ⟨rfl, hv⟩ := hf
    cases hv
    rw [Node.ofFields, Node.ofJson, Dialect.mapEntries, hread]
    exact ih

/-- A map of texts is read from the object of its bindings. -/
theorem reads_scalarMap (m : SortedMap String) :
    Reads (readScalarMap .value) (.obj (m.entries.map fun (k, v) => (k, .str v))) m := by
  intro w hw
  obtain ⟨moved, fields, rfl, hperm, hfields⟩ := hw.exists_obj
  obtain ⟨es, rfl, hes⟩ := (congrFun (congrFun
    (List.eq_map_comp_perm fun (k, v) => (k, Json.str v)) moved) m.entries).mpr hperm.symm
  rw [List.forall₂_map_left_iff] at hfields
  have htext : ∀ s, (do pure ((← Dialect.value.optional readScalar (.str s)).getD "") :
      Decoded String) = .ok s := fun s => rfl
  rw [Node.ofJson, readScalarMap]
  show (some <$> Dialect.mapEntries .value _ none .empty (Node.ofFields fields) >>= _) = _
  rw [mapEntries_ofFields htext hfields]
  exact congrArg Except.ok (SortedMap.ofList_of_perm hes.symm)

theorem PromptExtension.reads (e : PromptExtension) :
    Reads (PromptExtension.read .value) e.toJson e := by
  intro w hw
  have hobj : Json.IsReordered (.obj [("id", .str e.id),
      ("arguments", .obj (e.arguments.entries.map fun (k, v) => (k, .str v)))]) w := hw
  obtain ⟨gs, rfl, hkeys, hgs⟩ := hobj.exists_lookup (by simp)
  rw [PromptExtension.read]
  refine record_ofJson (.pair (by decide) fun _ _ _ => rfl) hkeys (by simp [mayHave]) ?_
  rw [setFields_mayHave hgs (.given "" (by simp) (reads_string _ e.id)) rfl,
    setFields_mayHave hgs
      (.given .empty (by simp [lookup_entry]) (reads_scalarMap e.arguments)) rfl]
  rfl

/-! ## Prompts -/

theorem lookup_ite_nil (c : Prop) [Decidable c] (k : String) (v : Json) (name : String) :
    (if c then [] else [(k, v)]).lookup name =
      if name = k then (if c then none else some v) else none := by
  split
  · rw [List.lookup_nil, ite_self]
  · rw [lookup_entry, List.lookup_nil]

theorem PromptKind.reads (kind : PromptKind) :
    Reads (PromptKind.read .value) (.str kind.name) kind := by
  intro w hw
  cases hw
  cases kind <;> simp [Node.ofJson, PromptKind.read, PromptKind.name, PromptKind.ofName] <;> rfl

namespace Prompt

variable {p : Prompt}

/-- The fields of a prompt as a data value. -/
def fields (p : Prompt) : List (String × Json) :=
  [("id", Json.str p.id), ("type", Json.str p.kind.name)]
    ++ (if p.description = "" then [] else [("description", Json.str p.description)])
    ++ (if p.tags.isEmpty then [] else [("tags", Json.arr (p.tags.map Json.str))])
    ++ (match p.schema with
      | none => []
      | some s => [("schema", s)])
    ++ [("messages", Json.arr (p.messages.map Message.toJson))]
    ++ (if p.extend.isEmpty then []
      else [("extend", Json.arr (p.extend.map PromptExtension.toJson))])

theorem toJson_eq (p : Prompt) : p.toJson = .obj p.fields := rfl

theorem nodup_fields (p : Prompt) : (p.fields.map Prod.fst).Nodup := by
  have hsub : (p.fields.map Prod.fst).Sublist (["id", "type"] ++ ["description"] ++ ["tags"] ++
      ["schema"] ++ ["messages"] ++ ["extend"]) := by
    simp only [fields, List.map_append]
    repeat' apply List.Sublist.append
    all_goals first
      | (split <;> simp)
      | simp
  exact hsub.nodup (by decide)

theorem lookup_schema (schema : Option Json) (name : String) :
    (match schema with
      | none => []
      | some s => [("schema", s)] : List (String × Json)).lookup name =
      if name = "schema" then schema else none := by
  cases schema with
  | none => rw [List.lookup_nil, ite_self]
  | some s => rw [lookup_entry, List.lookup_nil]

theorem lookup_fields (p : Prompt) :
    p.fields.lookup "id" = some (.str p.id) ∧
    p.fields.lookup "type" = some (.str p.kind.name) ∧
    p.fields.lookup "description" =
      (if p.description = "" then none else some (.str p.description)) ∧
    p.fields.lookup "tags" = (if p.tags.isEmpty then none else some (.arr (p.tags.map .str))) ∧
    p.fields.lookup "schema" = p.schema ∧
    p.fields.lookup "messages" = some (.arr (p.messages.map Message.toJson)) ∧
    p.fields.lookup "extend" =
      (if p.extend.isEmpty then none else some (.arr (p.extend.map PromptExtension.toJson))) := by
  simp only [fields, List.lookup_append, lookup_ite_nil, lookup_schema, lookup_entry,
    List.lookup_nil]
  simp

/-- The fields of a prompt with their setters. -/
def rules : List (FieldRule Prompt) :=
  [.mayHave "id" Dialect.value.string fun v p => { p with id := v },
   .mayHave "type" (PromptKind.read .value) fun v p => { p with kind := v },
   .mayHave "description" Dialect.value.string fun v p => { p with description := v },
   .mayHave "tags" (Dialect.value.list Dialect.value.string) fun v p => { p with tags := v },
   .mayHave "schema" (Dialect.value.optional Dialect.value.json) fun v p => { p with schema := v },
   .mayHave "messages" (Dialect.value.list (Message.read .value)) fun v p =>
     { p with messages := v },
   .mayHave "extend" (Dialect.value.list (PromptExtension.read .value)) fun v p =>
     { p with extend := v }]

theorem read_eq (n : Node) :
    Prompt.read .value n = record .value "struct Prompt" rules blank true n := rfl

theorem areApart_rules : AreApart rules := by
  refine ⟨by simp [rules, mayHave], ?_⟩
  simp only [rules, List.pairwise_cons, List.forall_mem_cons]
  repeat' apply And.intro
  all_goals first
    | (refine commute_of_set ?_; intros; rfl)
    | simp [mayHave]

theorem reads (hschema : ∀ s, p.schema = some s → s.IsNormal ∧ s ≠ .null) :
    Reads (Prompt.read .value) p.toJson p := by
  intro w hw
  obtain ⟨hid, hkind, hdescription, htags, hschema', hmessages, hextend⟩ := lookup_fields p
  obtain ⟨gs, rfl, hkeys, hgs⟩ := Json.IsReordered.exists_lookup hw p.nodup_fields
  have hdescription : HasField p.fields "description" Dialect.value.string "" p.description := by
    by_cases h : p.description = ""
    · exact .missing (by rw [hdescription, if_pos h]) h
    · exact .given _ (by rw [hdescription, if_neg h]) (reads_string _ _)
  have htags : HasField p.fields "tags" (Dialect.value.list Dialect.value.string) [] p.tags := by
    by_cases h : p.tags.isEmpty = true
    · exact .missing (by rw [htags, if_pos h]) (List.isEmpty_iff.1 h)
    · exact .given _ (by rw [htags, if_neg h]) (reads_list fun _ _ => reads_string _ _)
  have hschema : HasField p.fields "schema" (Dialect.value.optional Dialect.value.json) none
      p.schema := by
    cases h : p.schema with
    | none => exact .missing (by rw [hschema', h]) rfl
    | some s =>
      obtain ⟨hnormal, hne⟩ := hschema s h
      exact .given _ (by rw [hschema', h]) ((reads_json _ hnormal).optional hne)
  have hextend : HasField p.fields "extend" (Dialect.value.list (PromptExtension.read .value)) []
      p.extend := by
    by_cases h : p.extend.isEmpty = true
    · exact .missing (by rw [hextend, if_pos h]) (List.isEmpty_iff.1 h)
    · exact .given _ (by rw [hextend, if_neg h]) (reads_list fun _ _ => PromptExtension.reads _)
  rw [read_eq]
  refine record_ofJson areApart_rules hkeys (by simp [rules, mayHave]) ?_
  rw [rules, setFields_mayHave hgs (.given "" hid (reads_string _ _)) rfl,
    setFields_mayHave hgs (.given .prompt hkind (PromptKind.reads _)) rfl,
    setFields_mayHave hgs hdescription rfl, setFields_mayHave hgs htags rfl,
    setFields_mayHave hgs hschema rfl,
    setFields_mayHave hgs (.given [] hmessages (reads_list fun _ _ => Message.reads _)) rfl,
    setFields_mayHave hgs hextend rfl]
  rfl

/-- The schema of a prompt that was read is in normal form, and not null. -/
theorem schema_of_read {j : Json} (hj : j.IsFinite) (h : Prompt.read .value (.ofJson j) = .ok p) :
    ∀ s, p.schema = some s → s.IsNormal ∧ s ≠ .null := by
  rw [read_eq] at h
  refine record_invariant (P := fun p => ∀ s, p.schema = some s → s.IsNormal ∧ s ≠ .null) ?_ hj
    (fun s hs => by cases hs) h
  intro r hr v f hv hf
  simp only [rules, List.mem_cons, List.not_mem_nil, or_false] at hr
  rcases hr with rfl | rfl | rfl | rfl | rfl | rfl | rfl
  all_goals obtain ⟨a, ha, rfl⟩ := except_map_eq_ok.1 hf
  case inr.inr.inr.inr.inl =>
    intro x _ s hs
    obtain rfl : a = some s := hs
    exact hv.isNormal_of_optional ha
  all_goals exact fun x hx => hx

end Prompt

/-! ## Tools -/

namespace Tool

variable {t : Tool}

/-- The fields of a tool with their setters. -/
def rules : List (FieldRule Tool) :=
  [.mustHave "id" Dialect.value.string fun v t => { t with id := v },
   .mayHave "description" Dialect.value.string fun v t => { t with description := v },
   .mayHave "type" Dialect.value.string fun v t => { t with kind := v },
   .mayHave "tags" (Dialect.value.list Dialect.value.string) fun v t => { t with tags := v }]

/-- A tool of which nothing is said. -/
def blank : Tool := ⟨"", "", "run", [], .empty⟩

theorem read_eq (n : Node) : Tool.read .value n = (do
    let (t, rest) ← openRecord .value "struct Tool" rules blank n
    let fields ← Dialect.buffered.jsonFields rest
    pure { t with extra := SortedMap.ofList fields }) := rfl

theorem areApart_rules : AreApart rules := by
  refine ⟨by simp [rules, mayHave, mustHave], ?_⟩
  simp only [rules, List.pairwise_cons, List.forall_mem_cons]
  repeat' apply And.intro
  all_goals first
    | (refine commute_of_set ?_; intros; rfl)
    | simp [mayHave, mustHave]

/-- The fields that a tool has of its own. -/
def ownFields (t : Tool) : List (String × Json) :=
  [("id", Json.str t.id), ("description", Json.str t.description), ("type", Json.str t.kind)]
    ++ (if t.tags.isEmpty then [] else [("tags", Json.arr (t.tags.map Json.str))])

theorem toJson_eq (t : Tool) : t.toJson = .obj (t.ownFields ++ t.extra.entries) := rfl

/-- The further keys of a tool that was read are none of its own, and their values are in normal
form. -/
theorem extra_of_read {j : Json} (h : Tool.read .value (.ofJson j) = .ok t) :
    ∀ e ∈ t.extra.entries, isRuled rules e.1 = false ∧ e.2.IsNormal := by
  rw [read_eq] at h
  obtain ⟨⟨t', rest⟩, hrest, h⟩ := except_bind_eq_ok.1 h
  obtain ⟨fields, hfields, h⟩ := except_bind_eq_ok.1 h
  cases h
  have hkeys := Json.forall_key_of_jsonFields
    (not_isRuled_of_openRecord areApart_rules hrest) hfields
  intro e he
  have hmem := SortedMap.mem_of_mem_entries_ofList he
  exact ⟨hkeys e hmem, Json.isNormal_of_jsonFields _ _ hfields e hmem⟩

theorem keys_ownFields (t : Tool) :
    (t.ownFields.map Prod.fst).Sublist ["id", "description", "type", "tags"] := by
  have hsub : (t.ownFields.map Prod.fst).Sublist (["id", "description", "type"] ++ ["tags"]) := by
    rw [ownFields, List.map_append]
    refine .append (.refl _) ?_
    split <;> simp
  exact hsub

theorem isRuled_ownFields {f : String × Json} (h : f ∈ t.ownFields) :
    isRuled rules f.1 = true := by
  have hkeys : ∀ k ∈ ["id", "description", "type", "tags"], isRuled rules k = true := by
    simp [isRuled, rules, mayHave, mustHave, isNamed]
  exact hkeys f.1 (t.keys_ownFields.subset (List.mem_map_of_mem h))

/-- The fields of a tool have different keys, if its further keys are none of its own. -/
theorem nodup_fields (hextra : ∀ e ∈ t.extra.entries, isRuled rules e.1 = false) :
    ((t.ownFields ++ t.extra.entries).map Prod.fst).Nodup := by
  rw [List.map_append, List.nodup_append]
  refine ⟨t.keys_ownFields.nodup (by decide), t.extra.nodup_keys, fun k hk j hj hkj => ?_⟩
  obtain ⟨f, hf, rfl⟩ := List.mem_map.1 hk
  obtain ⟨e, he, rfl⟩ := List.mem_map.1 hj
  have hruled := isRuled_ownFields hf
  rw [hkj, hextra e he] at hruled
  cases hruled

theorem lookup_fields (hextra : ∀ e ∈ t.extra.entries, isRuled rules e.1 = false) :
    (t.ownFields ++ t.extra.entries).lookup "id" = some (.str t.id) ∧
    (t.ownFields ++ t.extra.entries).lookup "description" = some (.str t.description) ∧
    (t.ownFields ++ t.extra.entries).lookup "type" = some (.str t.kind) ∧
    (t.ownFields ++ t.extra.entries).lookup "tags" =
      (if t.tags.isEmpty then none else some (.arr (t.tags.map .str))) := by
  have hnone : ∀ name, isRuled rules name = true → t.extra.entries.lookup name = none := by
    intro name hname
    rw [lookup_eq_none_iff_not_mem]
    intro hmem
    obtain ⟨e, he, rfl⟩ := List.mem_map.1 hmem
    rw [hextra e he] at hname
    cases hname
  have hown : isRuled rules "id" = true ∧ isRuled rules "description" = true ∧
      isRuled rules "type" = true ∧ isRuled rules "tags" = true := by
    simp [isRuled, rules, mayHave, mustHave, isNamed]
  obtain ⟨hid, hdescription, hkind, htags⟩ := hown
  simp only [ownFields, List.lookup_append, lookup_ite_nil, lookup_entry, List.lookup_nil,
    hnone _ hid, hnone _ hdescription, hnone _ hkind, hnone _ htags]
  simp

theorem filter_fields (hextra : ∀ e ∈ t.extra.entries, isRuled rules e.1 = false) :
    ((t.ownFields ++ t.extra.entries).filter fun f => !isRuled rules f.1) = t.extra.entries := by
  rw [List.filter_append, List.filter_eq_nil_iff.2, List.filter_eq_self.2, List.nil_append]
  · exact fun e he => by rw [hextra e he]; rfl
  · exact fun f hf => by simp [isRuled_ownFields hf]

/-- The fields of no rule of a reordered tool are read as its further keys. -/
theorem jsonFields_extra (hextra : ∀ e ∈ t.extra.entries, isRuled rules e.1 = false ∧ e.2.IsNormal)
    (hw : (Json.obj (t.ownFields ++ t.extra.entries)).IsReordered (.obj gs)) :
    ∃ fields, Dialect.buffered.jsonFields
        (Node.ofFields (gs.filter fun f => !isRuled rules f.1)) = .ok fields ∧
      SortedMap.ofList fields = t.extra := by
  obtain ⟨moved, fields', heq, hperm, hfields⟩ := hw.exists_obj
  cases heq
  have hmoved : t.extra.entries.Perm (moved.filter fun f => !isRuled rules f.1) := by
    rw [← filter_fields fun e he => (hextra e he).1]
    exact hperm.filter _
  refine ⟨moved.filter fun f => !isRuled rules f.1, ?_, SortedMap.ofList_of_perm hmoved⟩
  have hkept := List.rel_filter (p := fun f : String × Json => !isRuled rules f.1)
    (q := fun f : String × Json => !isRuled rules f.1)
    (fun f g hfg => by dsimp only; rw [hfg.1]) hfields
  exact Json.jsonFields_ofFields (forall₂_imp_of_mem hkept fun f hf g hfg =>
    ⟨hfg.1, (hextra f (hmoved.mem_iff.2 hf)).2.json_ofJson _ hfg.2⟩)

theorem reads (hextra : ∀ e ∈ t.extra.entries, isRuled rules e.1 = false ∧ e.2.IsNormal) :
    Reads (Tool.read .value) t.toJson t := by
  intro w hw
  rw [toJson_eq] at hw
  have hforeign : ∀ e ∈ t.extra.entries, isRuled rules e.1 = false := fun e he => (hextra e he).1
  obtain ⟨gs, rfl, hkeys, hgs⟩ := hw.exists_lookup (nodup_fields hforeign)
  obtain ⟨fields, hfields, hextra'⟩ := jsonFields_extra hextra hw
  obtain ⟨hid, hdescription, hkind, htags⟩ := lookup_fields hforeign
  have htags : HasField (t.ownFields ++ t.extra.entries) "tags"
      (Dialect.value.list Dialect.value.string) [] t.tags := by
    by_cases h : t.tags.isEmpty = true
    · exact .missing (by rw [htags, if_pos h]) (List.isEmpty_iff.1 h)
    · exact .given _ (by rw [htags, if_neg h]) (reads_list fun _ _ => reads_string _ _)
  have hrequired : ∀ r ∈ rules, r.required = true → r.name ∈ gs.map Prod.fst := by
    have hmem : "id" ∈ gs.map Prod.fst := by
      have hrel := hgs "id"
      rw [hid] at hrel
      obtain ⟨v, hv, -⟩ := exists_of_rel hrel
      exact by_contra fun hnot => by simp [lookup_eq_none_iff_not_mem.2 hnot] at hv
    simpa [rules, mayHave, mustHave] using hmem
  have hset : setFields gs rules blank = .ok { t with extra := .empty } := by
    rw [rules, setFields_mustHave hgs (.given "" hid (reads_string _ _)) rfl,
      setFields_mayHave hgs (.given "" hdescription (reads_string _ _)) rfl,
      setFields_mayHave hgs (.given "run" hkind (reads_string _ _)) rfl,
      setFields_mayHave hgs htags rfl]
    rfl
  rw [read_eq, openRecord_ofJson areApart_rules hkeys hrequired hset]
  show (Dialect.buffered.jsonFields _ >>= fun fields => _) = _
  rw [hfields]
  show Except.ok { t with extra := SortedMap.ofList fields } = .ok t
  rw [hextra']

end Tool

/-- A prompt or a tool that was read from a data value is read again, as it is, from its own data
value, in whatever order the fields of that come. -/
theorem read_toJson_of_read :
    (∀ (j : Json) (p : Prompt), j.IsFinite → Prompt.read .value (.ofJson j) = .ok p →
      ∀ e, p.toJson.IsReordered e → Prompt.read .value (.ofJson e) = .ok p) ∧
    ∀ (j : Json) (t : Tool), Tool.read .value (.ofJson j) = .ok t →
      ∀ e, t.toJson.IsReordered e → Tool.read .value (.ofJson e) = .ok t :=
  ⟨fun _ _ hj h => Prompt.reads (Prompt.schema_of_read hj h),
    fun _ _ h => Tool.reads (Tool.extra_of_read h)⟩

/-- A template with a number and a null among its arguments, and a schema out of order. -/
def sketchJson : Json :=
  .obj [("schema", .obj [("required", .arr []), ("default", .int 1)]), ("type", .str "template"),
    ("extend", .arr [.obj [("arguments", .obj [("x", .int 3), ("y", .null)])]])]

def sketch : Prompt :=
  ⟨"", .template, "", [], some (.obj [("default", .int 1), ("required", .arr [])]), [],
    [⟨"", .ofList [("x", "3"), ("y", "")]⟩]⟩

/-- A tool with two keys that are not its own. -/
def probeJson : Json :=
  .obj [("wait", .int 5), ("id", .str "probe"), ("env", .obj [("b", .null), ("a", .str "")])]

def probe : Tool :=
  ⟨"probe", "", "run", [], .ofList [("wait", .int 5), ("env", .obj [("a", .str ""), ("b", .null)])]⟩

theorem read_toJson_sketch_probe :
    sketchJson.IsFinite ∧ Prompt.read .value (.ofJson sketchJson) = .ok sketch ∧
    Prompt.read .value (.ofJson (.obj sketch.fields.reverse)) = .ok sketch ∧
    Tool.read .value (.ofJson probeJson) = .ok probe ∧
    Tool.read .value (.ofJson probe.toJson) = .ok probe := by
  have hfinite : sketchJson.IsFinite := by
    have hschema : (Json.obj [("required", .arr []), ("default", .int 1)]).IsFinite :=
      .obj (by simpa using ⟨Json.IsFinite.arr (List.forall_mem_nil _), Json.IsFinite.int⟩)
    have harguments : (Json.obj [("x", .int 3), ("y", .null)]).IsFinite :=
      .obj (by simpa using ⟨Json.IsFinite.int, Json.IsFinite.null⟩)
    have hextend : (Json.arr [.obj [("arguments", .obj [("x", .int 3), ("y", .null)])]]).IsFinite :=
      .arr (List.forall_mem_singleton.2 (.obj (List.forall_mem_singleton.2 harguments)))
    exact .obj (by simpa using ⟨hschema, Json.IsFinite.str, hextend⟩)
  have hsketch : Prompt.read .value (.ofJson sketchJson) = .ok sketch := by rfl
  have hprobe : Tool.read .value (.ofJson probeJson) = .ok probe := by cbv
  exact ⟨hfinite, hsketch,
    read_toJson_of_read.1 sketchJson sketch hfinite hsketch _
      (.of_perm (List.reverse_perm _).symm),
    hprobe, read_toJson_of_read.2 probeJson probe hprobe _ (.refl _)⟩

end ContextCompiler
