import Mathlib.Data.List.DropRight
import ContextCompiler.Json.Printer
import ContextCompiler.Json.Reader

/-!
Reading what was printed.

The indented form of a value is read as that value, with nothing left over, as long as it holds no
numbers and is not nested too deeply (`read_pretty`). The reader needs no more fuel than there are
characters, since every list and map item stands on a line of its own.
-/

namespace ContextCompiler.Json

/-! ## Texts -/

theorem hexValue?_digitChar : ∀ n < 16, hexValue? (Nat.digitChar n) = some n := by decide

theorem ofNat_eq_of_toNat {c : Char} {n : Nat} (h : c.toNat = n) : c = Char.ofNat n := by
  rw [← h, Char.ofNat_toNat]

/-- The escape of a control character is read as its number. -/
theorem hexFour_hexPair {n : Nat} (h : n < 32) (rest : List Char) :
    hexFour ('0' :: '0' :: (hexPair n ++ rest)) = .ok (n, rest) := by
  have hhigh := hexValue?_digitChar (n / 16) (by omega)
  have hlow := hexValue?_digitChar (n % 16) (by omega)
  have hzero : hexValue? '0' = some 0 := by decide
  have hnumber : ((0 * 16 + 0) * 16 + n / 16) * 16 + n % 16 = n := by omega
  simp only [hexPair, List.cons_append, List.nil_append, hexFour, hzero, hhigh, hlow, hnumber]

theorem unicodeEscape_hexPair {c : Char} (h : c.toNat < 32) (rest : List Char) :
    unicodeEscape ('0' :: '0' :: (hexPair c.toNat ++ rest)) = .ok c := by
  have hlow : (decide (0xDC00 ≤ c.toNat) && decide (c.toNat ≤ 0xDFFF)) = false := by
    simp; omega
  have hhigh : (decide (0xD800 ≤ c.toNat) && decide (c.toNat ≤ 0xDBFF)) = false := by
    simp; omega
  unfold unicodeEscape
  rw [hexFour_hexPair h]
  simp only [bind, Except.bind, hlow, hhigh, Bool.false_eq_true, if_false, Char.ofNat_toNat]
  rfl

/-- Characters of an escape that was read are passed over. -/
theorem quotedTail_skip (out : Except JsonFault (List Char)) (passed rest : List Char) :
    quotedTail out passed.length (passed ++ rest) = quotedTail out 0 rest := by
  induction passed with
  | nil => rfl
  | cons c passed ih =>
    rw [List.length_cons, List.cons_append, quotedTail]
    exact ih

theorem quotedTail_control {c : Char} (h : c.toNat < 32) (out rest : List Char) :
    quotedTail (.ok out) 0 (['\\', 'u', '0', '0'] ++ hexPair c.toNat ++ rest) =
      quotedTail (.ok (c :: out)) 0 rest := by
  have hskip := quotedTail_skip (.ok (c :: out)) ('0' :: '0' :: hexPair c.toNat) rest
  have hhigh : (decide (0xD800 ≤ c.toNat) && decide (c.toNat ≤ 0xDBFF)) = false := by
    simp; omega
  simp only [List.cons_append, List.nil_append] at hskip ⊢
  rw [quotedTail, hexFour_hexPair h, unicodeEscape_hexPair h]
  simp only [beq_self_eq_true, if_true, hhigh, Bool.false_eq_true, if_false]
  exact hskip

/-- A character in quotes is read as itself. -/
theorem quotedTail_quoteChar (c : Char) (out rest : List Char) :
    quotedTail (.ok out) 0 (quoteChar c ++ rest) = quotedTail (.ok (c :: out)) 0 rest := by
  unfold quoteChar
  split
  · next h =>
    obtain rfl := beq_iff_eq.1 h
    rfl
  next hquote =>
  split
  · next h =>
    obtain rfl := beq_iff_eq.1 h
    rfl
  next hslash =>
  split
  · next h =>
    obtain rfl := beq_iff_eq.1 h
    rfl
  split
  · next h =>
    obtain rfl := beq_iff_eq.1 h
    rfl
  split
  · next h =>
    obtain rfl := beq_iff_eq.1 h
    rfl
  split
  · next h =>
    obtain rfl := ofNat_eq_of_toNat (beq_iff_eq.1 h)
    rfl
  split
  · next h =>
    obtain rfl := ofNat_eq_of_toNat (beq_iff_eq.1 h)
    rfl
  split
  · next h => exact quotedTail_control h out rest
  · next h =>
    rw [List.singleton_append, quotedTail]
    · rw [if_neg h]
      rfl
    · simpa using hquote
    · rintro rfl
      simp at hslash
    · rintro d t rfl
      simp at hslash

/-- The text between quotes is read as it was before. -/
theorem quotedTail_quote (s out rest : List Char) :
    quotedTail (.ok out) 0 (s.flatMap quoteChar ++ '"' :: rest) =
      (.str (String.ofList (out.reverse ++ s)), some rest) := by
  induction s generalizing out with
  | nil => simp [quotedTail]
  | cons c s ih =>
    rw [List.flatMap_cons, List.append_assoc, quotedTail_quoteChar, ih]
    simp

/-! ## Gaps -/

/-- A text of characters that may stand between values. -/
def IsGapText (s : List Char) : Prop := ∀ c ∈ s, isGap c = true

theorem dropGap_append {gap : List Char} (h : IsGapText gap) (s : List Char) :
    dropGap (gap ++ s) = dropGap s :=
  List.dropWhile_append_of_pos h

theorem dropGap_of_not {c : Char} (h : isGap c = false) (s : List Char) :
    dropGap (c :: s) = c :: s := by
  simp [dropGap, h]

theorem isGapText_newline {gap : List Char} (h : IsGapText gap) : IsGapText ('\n' :: gap) := by
  intro c hc
  rcases List.mem_cons.1 hc with rfl | hc
  · rfl
  · exact h c hc

theorem isGapText_deeper {indent : String} (h : IsGapText indent.toList) :
    IsGapText (indent ++ "  ").toList := by
  intro c hc
  rw [String.toList_append] at hc
  rcases List.mem_append.1 hc with hc | hc
  · exact h c hc
  · have hspaces : "  ".toList = [' ', ' '] := by simp
    rw [hspaces] at hc
    obtain rfl : c = ' ' := by simpa using hc
    rfl

/-! ## Lines -/

/-- Items or fields one a line, up to the character that ends them. -/
def linesText (indent outer : List Char) (close : Char) : Bool → List (List Char) → List Char
  | _, [] => '\n' :: outer ++ [close]
  | first, line :: rest =>
    (if first then [] else [',']) ++ '\n' :: indent ++ line ++
      linesText indent outer close false rest

theorem toList_indentedItems (indent outer : String) (first : Bool) (v : Json)
    (rest : List Json) :
    (if first then [] else [',']) ++ '\n' :: (indentedItems indent (v :: rest)).toList ++
        '\n' :: outer.toList ++ [']'] =
      linesText indent.toList outer.toList ']' first
        ((v :: rest).map fun v => (indented indent v).toList) := by
  induction rest generalizing v first with
  | nil => simp [indentedItems, linesText]
  | cons w rest ih =>
    have hrest := ih false w
    simp only [List.map_cons, Bool.false_eq_true, if_false] at hrest ⊢
    rw [linesText, ← hrest]
    simp [indentedItems]

/-- A field on its line. -/
def fieldText (indent : String) (f : String × Json) : List Char :=
  (quote f.1).toList ++ ':' :: ' ' :: (indented indent f.2).toList

theorem toList_indentedFields (indent outer : String) (first : Bool) (f : String × Json)
    (rest : List (String × Json)) :
    (if first then [] else [',']) ++ '\n' :: (indentedFields indent (f :: rest)).toList ++
        '\n' :: outer.toList ++ ['\x7d'] =
      linesText indent.toList outer.toList '\x7d' first ((f :: rest).map (fieldText indent)) := by
  induction rest generalizing f first with
  | nil => simp [indentedFields, linesText, fieldText]
  | cons g rest ih =>
    have hrest := ih false g
    simp only [List.map_cons, Bool.false_eq_true, if_false] at hrest ⊢
    rw [linesText, ← hrest]
    simp [indentedFields, fieldText]

/-! ## Values -/

/-- A value without numbers, in which lists and maps are nested at most `n` deep. -/
inductive Readable : Nat → Json → Prop
  | null {n : Nat} : Readable n .null
  | bool {n : Nat} {b : Bool} : Readable n (.bool b)
  | str {n : Nat} {s : String} : Readable n (.str s)
  | arr {n : Nat} {items : List Json} :
      (∀ v ∈ items, Readable n v) → Readable (n + 1) (.arr items)
  | obj {n : Nat} {fields : List (String × Json)} :
      (∀ f ∈ fields, Readable n f.2) → Readable (n + 1) (.obj fields)

/-- A text is read as a node whatever comes after it, with fuel for each of its characters. It does
not start like a gap or like the end of a list. -/
structure ReadsAs (depth : Nat) (text : List Char) (node : Node) : Prop where
  start : ∃ c s, text = c :: s ∧ isGap c = false ∧ c ≠ ']'
  read : ∀ fuel rest, text.length ≤ fuel → value depth fuel (text ++ rest) = (node, some rest)

theorem value_dropGap (depth fuel : Nat) (s : List Char) :
    value depth fuel (dropGap s) = value depth fuel s := by
  cases fuel with
  | zero => rfl
  | succ fuel =>
    have hidem : dropGap (dropGap s) = dropGap s := List.dropWhile_idempotent isGap s
    rw [value, value, hidem]

theorem value_space (depth fuel : Nat) (s : List Char) :
    value depth fuel (' ' :: s) = value depth fuel s := by
  rw [← value_dropGap depth fuel (' ' :: s), ← value_dropGap depth fuel s]
  rfl

theorem atDepth_of_lt {depth : Nat} (h : depth < depthLimit) (n : Node) : atDepth depth n = n := by
  rw [atDepth, if_neg (Nat.not_le.2 h)]

/-- An item that is read is the first one, and the others follow. -/
theorem items_cons {depth fuel : Nat} {first : Bool} {s t after rest : List Char} {c : Char}
    {n : Node} {others : List Node} (hgap : dropGap s = c :: t) (hend : c ≠ ']')
    (hstart : itemStart first c t = .ok after)
    (hvalue : value (depth + 1) fuel after = (n, some rest)) {stop : Option Break}
    {last : Option (List Char)} (hrest : Json.items depth false fuel rest = (others, stop, last)) :
    Json.items depth first (fuel + 1) s = (n :: others, stop, last) := by
  rw [Json.items, hgap]
  split
  · next h => cases h
  · next h =>
    cases h
    exact absurd rfl hend
  · next h =>
    cases h
    simp only [hstart, hvalue, hrest]

theorem itemStart_comma {s t : List Char} {c : Char} (hgap : dropGap s = c :: t) (hend : c ≠ ']') :
    itemStart false ',' s = .ok (c :: t) := by
  unfold itemStart
  rw [hgap]
  simp only [Bool.false_eq_true, if_false, beq_self_eq_true, if_true]
  split
  · next h => cases h
  · next h =>
    cases h
    exact absurd rfl hend
  · rfl

theorem dropGap_line {indent line : List Char} (hindent : IsGapText indent) {c : Char}
    {s : List Char} (hline : line = c :: s) (hc : isGap c = false) (more : List Char) :
    dropGap ('\n' :: indent ++ line ++ more) = c :: s ++ more := by
  rw [List.append_assoc, dropGap_append (isGapText_newline hindent), hline, List.cons_append,
    dropGap_of_not hc]

theorem value_list {depth fuel : Nat} {s : List Char} {nodes : List Node} {stop : Option Break}
    {last : Option (List Char)} (hdepth : depth < depthLimit)
    (h : Json.items depth true fuel s = (nodes, stop, last)) :
    value depth (fuel + 1) ('[' :: s) = (.seq nodes stop, last) := by
  show (atDepth depth (.seq (Json.items depth true fuel s).1 (Json.items depth true fuel s).2.1),
    (Json.items depth true fuel s).2.2) = _
  rw [h, atDepth_of_lt hdepth]

theorem value_map {depth fuel : Nat} {s : List Char} {nodes : List (Node × Node)}
    {stop : Option Break} {last : Option (List Char)} (hdepth : depth < depthLimit)
    (h : entries depth true fuel s = (nodes, stop, last)) :
    value depth (fuel + 1) ('\x7b' :: s) = (.map nodes stop, last) := by
  show (atDepth depth (.map (entries depth true fuel s).1 (entries depth true fuel s).2.1),
    (entries depth true fuel s).2.2) = _
  rw [h, atDepth_of_lt hdepth]

theorem items_linesText {depth : Nat} {indent outer : List Char} (hindent : IsGapText indent)
    (houter : IsGapText outer) {items : List Json} {line : Json → List Char}
    (hitems : ∀ v ∈ items, ReadsAs (depth + 1) (line v) (Node.ofJson v)) (first : Bool) (fuel : Nat)
    (rest : List Char)
    (hfuel : (linesText indent outer ']' first (items.map line)).length ≤ fuel) :
    Json.items depth first fuel (linesText indent outer ']' first (items.map line) ++ rest) =
      (Node.ofItems items, none, some rest) := by
  induction items generalizing first fuel with
  | nil =>
    cases fuel with
    | zero => simp [linesText] at hfuel
    | succ fuel =>
      have hgap : dropGap ('\n' :: outer ++ [']'] ++ rest) = ']' :: rest := by
        rw [List.append_assoc, dropGap_append (isGapText_newline houter)]
        rfl
      rw [List.map_nil, linesText, Json.items, hgap]
      rfl
  | cons v items ih =>
    obtain ⟨⟨c, s, hline, hc, hend⟩, hread⟩ := hitems v List.mem_cons_self
    cases fuel with
    | zero => cases first <;> simp [linesText] at hfuel
    | succ fuel =>
      rw [List.map_cons, linesText] at hfuel ⊢
      generalize hmore : linesText indent outer ']' false (items.map line) = more at hfuel ih ⊢
      have hlength : (line v).length + more.length ≤ fuel := by
        cases first <;> simp at hfuel <;> omega
      have hvalue := hread fuel (more ++ rest) (by omega)
      have hothers := ih (fun v hv => hitems v (List.mem_cons_of_mem _ hv)) false fuel
        (by rw [hmore]; omega)
      rw [hmore] at hothers
      have hafter := dropGap_line hindent hline hc (more ++ rest)
      cases first with
      | true =>
        refine items_cons (by simpa using hafter) hend rfl ?_ hothers
        simpa [hline] using hvalue
      | false =>
        have hcomma : dropGap (',' :: ('\n' :: indent ++ line v ++ (more ++ rest))) =
            ',' :: ('\n' :: indent ++ line v ++ (more ++ rest)) := dropGap_of_not rfl _
        refine items_cons (by simpa using hcomma) (by decide) ?_ hvalue hothers
        rw [hline] at hafter ⊢
        exact itemStart_comma (by simpa using hafter) hend

theorem toList_quote (s : String) :
    (quote s).toList = '"' :: (s.toList.flatMap quoteChar ++ ['"']) := by
  simp [quote]

/-- A field that is read is the first one, and the others follow. -/
theorem entries_cons {depth fuel : Nat} {first : Bool}
    {s t after afterKey afterColon rest : List Char} {c : Char} {k v : Node}
    {others : List (Node × Node)} (hgap : dropGap s = c :: t) (hend : c ≠ '\x7d')
    (hstart : keyStart first c t = .ok after)
    (hkey : quotedTail (.ok []) 0 after = (k, some afterKey))
    (hcolon : dropGap afterKey = ':' :: afterColon)
    (hvalue : value (depth + 1) fuel afterColon = (v, some rest)) {stop : Option Break}
    {last : Option (List Char)} (hrest : entries depth false fuel rest = (others, stop, last)) :
    entries depth first (fuel + 1) s = ((k, v) :: others, stop, last) := by
  rw [entries, hgap]
  split
  · next h => cases h
  · next h =>
    cases h
    exact absurd rfl hend
  · next h =>
    cases h
    simp only [hstart, hkey, hcolon, hvalue, hrest]

theorem entries_linesText {depth : Nat} {indent : String} {outer : List Char}
    (hindent : IsGapText indent.toList) (houter : IsGapText outer) {fields : List (String × Json)}
    (hfields : ∀ f ∈ fields,
      ReadsAs (depth + 1) (indented indent f.2).toList (Node.ofJson f.2)) (first : Bool)
    (fuel : Nat) (rest : List Char)
    (hfuel : (linesText indent.toList outer '\x7d' first (fields.map (fieldText indent))).length ≤
      fuel) :
    entries depth first fuel
        (linesText indent.toList outer '\x7d' first (fields.map (fieldText indent)) ++ rest) =
      (Node.ofFields fields, none, some rest) := by
  induction fields generalizing first fuel with
  | nil =>
    cases fuel with
    | zero => simp [linesText] at hfuel
    | succ fuel =>
      have hgap : dropGap ('\n' :: outer ++ ['\x7d'] ++ rest) = '\x7d' :: rest := by
        rw [List.append_assoc, dropGap_append (isGapText_newline houter)]
        rfl
      rw [List.map_nil, linesText, entries, hgap]
      rfl
  | cons f fields ih =>
    obtain ⟨k, v⟩ := f
    have hread : ReadsAs (depth + 1) (indented indent v).toList (Node.ofJson v) :=
      hfields (k, v) List.mem_cons_self
    cases fuel with
    | zero => cases first <;> simp [linesText] at hfuel
    | succ fuel =>
      rw [List.map_cons, linesText] at hfuel ⊢
      generalize hmore : linesText indent.toList outer '\x7d' false
        (fields.map (fieldText indent)) = more at hfuel ih ⊢
      have hlength : (fieldText indent (k, v)).length + more.length ≤ fuel := by
        cases first <;> simp at hfuel <;> omega
      have hvalue : value (depth + 1) fuel (' ' :: ((indented indent v).toList ++ (more ++ rest))) =
          (Node.ofJson v, some (more ++ rest)) := by
        rw [value_space]
        refine hread.read fuel (more ++ rest) ?_
        simp only [fieldText, List.length_append, List.length_cons] at hlength
        omega
      have hothers := ih (fun f hf => hfields f (List.mem_cons_of_mem _ hf)) false fuel
        (by rw [hmore]; omega)
      rw [hmore] at hothers
      -- the key up to its quote, then the colon
      have hkey := quotedTail_quote k.toList []
        (':' :: ' ' :: ((indented indent v).toList ++ (more ++ rest)))
      have hcolon : dropGap (':' :: ' ' :: ((indented indent v).toList ++ (more ++ rest))) =
          ':' :: ' ' :: ((indented indent v).toList ++ (more ++ rest)) := dropGap_of_not rfl _
      have hline : fieldText indent (k, v) = '"' :: (k.toList.flatMap quoteChar ++
          '"' :: ':' :: ' ' :: (indented indent v).toList) := by
        simp [fieldText, toList_quote]
      have hafter : dropGap ('\n' :: indent.toList ++ fieldText indent (k, v) ++ (more ++ rest)) =
          '"' :: (k.toList.flatMap quoteChar ++
            '"' :: ':' :: ' ' :: ((indented indent v).toList ++ (more ++ rest))) := by
        rw [dropGap_line hindent hline rfl]
        simp
      rw [List.reverse_nil, List.nil_append, String.ofList_toList] at hkey
      cases first with
      | true =>
        exact entries_cons (by simpa using hafter) (by decide) rfl hkey hcolon hvalue hothers
      | false =>
        have hcomma : dropGap (',' :: ('\n' :: indent.toList ++ fieldText indent (k, v) ++
            (more ++ rest))) =
            ',' :: ('\n' :: indent.toList ++ fieldText indent (k, v) ++ (more ++ rest)) :=
          dropGap_of_not rfl _
        have hstart : keyStart false ','
            ('\n' :: indent.toList ++ fieldText indent (k, v) ++ (more ++ rest)) =
            .ok (k.toList.flatMap quoteChar ++
              '"' :: ':' :: ' ' :: ((indented indent v).toList ++ (more ++ rest))) := by
          rw [keyStart, hafter]
          rfl
        exact entries_cons (by simpa using hcomma) (by decide) hstart hkey hcolon hvalue hothers

theorem ReadsAs.of_cons {depth : Nat} {c : Char} {s : List Char} {node : Node}
    (hc : isGap c = false) (hend : c ≠ ']')
    (h : ∀ fuel rest, s.length ≤ fuel →
      value depth (fuel + 1) (c :: (s ++ rest)) = (node, some rest)) :
    ReadsAs depth (c :: s) node := by
  refine ⟨⟨c, s, rfl, hc, hend⟩, fun fuel rest hfuel => ?_⟩
  cases fuel with
  | zero => simp at hfuel
  | succ fuel => exact h fuel rest (Nat.le_of_succ_le_succ hfuel)

theorem toList_indented_arr (indent : String) (items : List Json) :
    (indented indent (.arr items)).toList = '[' ::
      match items with
      | [] => [']']
      | v :: rest => linesText (indent ++ "  ").toList indent.toList ']' true
          ((v :: rest).map fun v => (indented (indent ++ "  ") v).toList) := by
  cases items with
  | nil => simp [indented]
  | cons v rest =>
    have hlines := toList_indentedItems (indent ++ "  ") indent true v rest
    dsimp only
    rw [← hlines]
    simp [indented]

theorem toList_indented_obj (indent : String) (fields : List (String × Json)) :
    (indented indent (.obj fields)).toList = '\x7b' ::
      match fields with
      | [] => ['\x7d']
      | f :: rest => linesText (indent ++ "  ").toList indent.toList '\x7d' true
          ((f :: rest).map (fieldText (indent ++ "  "))) := by
  cases fields with
  | nil => simp [indented]
  | cons f rest =>
    have hlines := toList_indentedFields (indent ++ "  ") indent true f rest
    dsimp only
    rw [← hlines]
    simp [indented]

/-- The indented form of a value is read as that value. -/
theorem readsAs_indented {n : Nat} {j : Json} (h : Readable n j) {indent : String}
    (hindent : IsGapText indent.toList) {depth : Nat} (hdepth : depth + n ≤ depthLimit) :
    ReadsAs depth (indented indent j).toList (Node.ofJson j) := by
  induction h generalizing indent depth with
  | null =>
    have htext : (indented indent .null).toList = ['n', 'u', 'l', 'l'] := by simp [indented]
    rw [htext]
    exact .of_cons rfl (by decide) fun fuel rest _ => rfl
  | @bool _ b =>
    cases b with
    | true =>
      have htext : (indented indent (.bool true)).toList = ['t', 'r', 'u', 'e'] := by
        simp [indented]
      rw [htext]
      exact .of_cons rfl (by decide) fun fuel rest _ => rfl
    | false =>
      have htext : (indented indent (.bool false)).toList = ['f', 'a', 'l', 's', 'e'] := by
        simp [indented]
      rw [htext]
      exact .of_cons rfl (by decide) fun fuel rest _ => rfl
  | @str _ s =>
    rw [indented, toList_quote]
    refine .of_cons rfl (by decide) fun fuel rest _ => ?_
    have hquoted := quotedTail_quote s.toList [] rest
    rw [List.reverse_nil, List.nil_append, String.ofList_toList] at hquoted
    rw [List.append_assoc]
    exact hquoted
  | @arr n items _ ih =>
    have hitems : ∀ v ∈ items, ReadsAs (depth + 1) (indented (indent ++ "  ") v).toList
        (Node.ofJson v) := fun v hv => ih v hv (isGapText_deeper hindent) (by omega)
    rw [toList_indented_arr]
    refine .of_cons rfl (by decide) fun fuel rest hfuel => value_list (by omega) ?_
    cases items with
    | nil =>
      cases fuel with
      | zero => simp at hfuel
      | succ fuel => rfl
    | cons v items =>
      exact items_linesText (isGapText_deeper hindent) hindent hitems true fuel rest hfuel
  | @obj n fields _ ih =>
    have hfields : ∀ f ∈ fields, ReadsAs (depth + 1) (indented (indent ++ "  ") f.2).toList
        (Node.ofJson f.2) := fun f hf => ih f hf (isGapText_deeper hindent) (by omega)
    rw [toList_indented_obj]
    refine .of_cons rfl (by decide) fun fuel rest hfuel => value_map (by omega) ?_
    cases fields with
    | nil =>
      cases fuel with
      | zero => simp at hfuel
      | succ fuel => rfl
    | cons f fields =>
      exact entries_linesText (isGapText_deeper hindent) hindent hfields true fuel rest hfuel

/-- A value on lines of its own is read back, and nothing is left. -/
theorem read_pretty {n : Nat} {j : Json} (h : Readable n j) (hn : n ≤ depthLimit) :
    read (j.pretty ++ "\n") = (Node.ofJson j, none) := by
  have hreads : ReadsAs 0 j.pretty.toList (Node.ofJson j) :=
    readsAs_indented h (fun c hc => by simp at hc) (by omega)
  have hvalue := hreads.read (2 * (j.pretty ++ "\n").toList.length + 2) ['\n'] (by simp; omega)
  have htext : (j.pretty ++ "\n").toList = j.pretty.toList ++ ['\n'] := String.toList_append
  unfold read
  rw [htext] at hvalue ⊢
  dsimp only
  rw [hvalue]
  rfl

end ContextCompiler.Json
