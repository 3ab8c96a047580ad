import Mathlib.Data.List.Basic
import Mathlib.Tactic.Tauto
import ContextCompiler.Html.Table
import ContextCompiler.Proofs.Text.Lines

/-!
Which cells of a table are written.

A table is to be written with all cells of its rows (`fullGrid`). Written are the cells that rows
keep (`keptGrid`): of a row with header cells these alone. And a row of header cells is the header
only where no later row has header cells. So a table is written in full if its rows do not mix
cells and at most the first has header cells, or the first has none (`IsRegular`); and a table
without empty cells is written in full in no other case (`isRegular_of_gridLine`). For that the
lengths of lines are enough: a line that has lost a cell is shorter.
-/

namespace ContextCompiler.Html

namespace Dom

/-- Whether a part is a header cell. -/
def isHeaderCell (d : Dom) : Bool := d.name? == some "th"

/-- The cells of a row, in the order of the page. -/
def cells (row : Dom) : List Dom :=
  (elementsOf row.children).filter fun d => d.isHeaderCell || d.name? == some "td"

/-- Whether a row has no cells but header cells. -/
def isHeading (row : Dom) : Bool := row.cells.all isHeaderCell

/-- The rows of a table that have a cell. -/
def filledRows (table : Dom) : List Dom :=
  (table.inside "tr").filter fun row => !row.cells.isEmpty

end Dom

/-! ## Tables to be written -/

/-- The most cells that a row has. -/
def width (rows : List (List (List Char))) : Nat := (rows.map List.length).foldl Nat.max 0

/-- The cells of the line below the header. -/
def divider (columns : Nat) : List (List Char) := List.replicate columns ['-', '-', '-']

/-- The cells of all lines of a table: every row filled up, and the divider behind the first line,
which is an empty one where no row is the header. -/
def laidOut (header : Bool) (rows : List (List (List Char))) : List (List (List Char)) :=
  match rows.map (padded (width rows)) with
  | [] => []
  | first :: rest =>
    if header then first :: divider (width rows) :: rest
    else List.replicate (width rows) [] :: divider (width rows) :: first :: rest

/-- A line of a table, without its end. -/
def gridLine (cells : List (List Char)) : List Char :=
  ['|', ' '] ++ Text.joinWith [' ', '|', ' '] cells ++ [' ', '|']

/-- The cells that a table is to be written with: those of every row that has any. The first of
these rows is the header if it has header cells only. -/
def fullGrid (table : Dom) : List (List (List Char)) :=
  laidOut (table.filledRows.head?.any Dom.isHeading)
    (table.filledRows.map fun row => row.cells.map cellText)

/-- The cells that a table is written with. -/
def keptGrid (table : Dom) : List (List (List Char)) :=
  laidOut (hasHeader (tableRows table)) ((tableRows table).map (·.2))

/-- No row mixes header cells and others, and behind a row of header cells at the start there is no
other of them. -/
structure IsRegular (table : Dom) : Prop where
  unmixed : ∀ row ∈ table.filledRows, row.isHeading = true ∨
    ∀ cell ∈ row.cells, cell.isHeaderCell = false
  single : table.filledRows.head?.any Dom.isHeading = true →
    ∀ row ∈ table.filledRows.tail, row.isHeading = false

variable {table row : Dom} {rows : List (List (List Char))} {cells : List (List Char)} {n : Nat}

/-! ## The cells that a row keeps -/

theorem inside_th (row : Dom) : row.inside "th" = row.cells.filter Dom.isHeaderCell := by
  rw [Dom.inside, Dom.cells, List.filter_filter]
  refine List.filter_congr fun d _ => ?_
  rw [Dom.isHeaderCell]
  cases d.name? == some "th" <;> rfl

theorem inside_td (row : Dom) : row.inside "td" = row.cells.filter fun d => !d.isHeaderCell := by
  rw [Dom.inside, Dom.cells, List.filter_filter]
  refine List.filter_congr fun d _ => ?_
  rw [Dom.isHeaderCell, Bool.eq_iff_iff]
  simp only [Bool.and_eq_true, Bool.or_eq_true, Bool.not_eq_true', beq_iff_eq,
    beq_eq_false_iff_ne]
  constructor
  · intro h
    exact ⟨by simp [h], .inr h⟩
  · rintro ⟨hth, h⟩
    exact h.resolve_left hth

/-- A row with a header cell keeps its header cells. -/
theorem rowCells_of_header (h : ∃ cell ∈ row.cells, cell.isHeaderCell = true) :
    rowCells row = (true, (row.cells.filter Dom.isHeaderCell).map cellText) := by
  obtain ⟨cell, hcell, hth⟩ := h
  have hne : row.inside "th" ≠ [] := by
    rw [inside_th]
    exact List.ne_nil_of_mem (List.mem_filter.2 ⟨hcell, hth⟩)
  rw [← inside_th, rowCells]
  split
  · next hnil => exact absurd hnil hne
  · rfl

/-- A row without header cells keeps all its cells. -/
theorem rowCells_of_plain (h : ∀ cell ∈ row.cells, cell.isHeaderCell = false) :
    rowCells row = (false, row.cells.map cellText) := by
  have hth : row.inside "th" = [] := by
    rw [inside_th, List.filter_eq_nil_iff]
    intro cell hcell
    simp [h cell hcell]
  have htd : row.inside "td" = row.cells := by
    rw [inside_td, List.filter_eq_self]
    intro cell hcell
    simp [h cell hcell]
  rw [rowCells, hth, htd]

theorem header_or_plain (row : Dom) : (∃ cell ∈ row.cells, cell.isHeaderCell = true) ∨
    ∀ cell ∈ row.cells, cell.isHeaderCell = false := by
  by_cases h : ∃ cell ∈ row.cells, cell.isHeaderCell = true
  · exact .inl h
  · exact .inr fun cell hcell => Bool.eq_false_iff.2 fun hth => h ⟨cell, hcell, hth⟩

theorem rowCells_sublist (row : Dom) : (rowCells row).2.Sublist (row.cells.map cellText) := by
  rcases header_or_plain row with h | h
  · rw [rowCells_of_header h]
    exact List.filter_sublist.map cellText
  · rw [rowCells_of_plain h]

theorem isEmpty_rowCells (row : Dom) : (rowCells row).2.isEmpty = row.cells.isEmpty := by
  rcases header_or_plain row with h | h
  · obtain ⟨cell, hcell, hth⟩ := h
    rw [rowCells_of_header ⟨cell, hcell, hth⟩, List.isEmpty_map,
      List.isEmpty_eq_false_iff.2 (List.ne_nil_of_mem (List.mem_filter.2 ⟨hcell, hth⟩)),
      List.isEmpty_eq_false_iff.2 (List.ne_nil_of_mem hcell)]
  · rw [rowCells_of_plain h, List.isEmpty_map]

/-- A row that keeps as many cells as it has does not mix them. -/
theorem isHeading_or_plain_of_length (h : (rowCells row).2.length = row.cells.length) :
    row.isHeading = true ∨ ∀ cell ∈ row.cells, cell.isHeaderCell = false := by
  refine (header_or_plain row).imp_left fun hth => ?_
  rw [rowCells_of_header hth, List.length_map, List.length_filter_eq_length_iff] at h
  exact List.all_eq_true.2 h

theorem rowCells_of_unmixed (hrow : row.cells ≠ [])
    (h : row.isHeading = true ∨ ∀ cell ∈ row.cells, cell.isHeaderCell = false) :
    rowCells row = (row.isHeading, row.cells.map cellText) := by
  obtain ⟨cell, hcell⟩ := List.exists_mem_of_ne_nil _ hrow
  rcases h with h | h
  · have hall : ∀ cell ∈ row.cells, cell.isHeaderCell = true := List.all_eq_true.1 h
    rw [rowCells_of_header ⟨cell, hcell, hall cell hcell⟩, List.filter_eq_self.2 hall, h]
  · have hheading : row.isHeading = false :=
      List.all_eq_false.2 ⟨cell, hcell, by simp [h cell hcell]⟩
    rw [rowCells_of_plain h, hheading]

theorem tableRows_eq (table : Dom) : tableRows table = table.filledRows.map rowCells := by
  rw [tableRows, Dom.filledRows, List.filter_map]
  refine congrArg _ (List.filter_congr fun row _ => ?_)
  exact congrArg not (isEmpty_rowCells row)

theorem cells_ne_nil (h : row ∈ table.filledRows) : row.cells ≠ [] := by
  have hrow := (List.mem_filter.1 h).2
  rwa [Bool.not_eq_true', List.isEmpty_eq_false_iff] at hrow

/-! ## Lines -/

theorem tableLine_eq (cells : List (List Char)) : tableLine cells = gridLine cells ++ ['\n'] := by
  rw [tableLine, gridLine, List.append_assoc _ [' ', '|'] ['\n']]
  rfl

theorem getLast?_gridLine (cells : List (List Char)) : (gridLine cells).getLast? = some '|' := by
  rw [gridLine, List.getLast?_append]
  rfl

theorem not_mem_gridLine (h : ∀ cell ∈ cells, '\n' ∉ cell) : '\n' ∉ gridLine cells := by
  intro hmem
  rw [gridLine, List.mem_append, List.mem_append] at hmem
  rcases hmem with (hmem | hmem) | hmem
  · exact absurd hmem (by decide)
  · rcases Text.mem_joinWith hmem with hmem | ⟨cell, hcell, hmem⟩
    · exact absurd hmem (by decide)
    · exact h cell hcell hmem
  · exact absurd hmem (by decide)

/-- Lines that end with a bar are read back as they are. -/
theorem lineChars_flatten {ls : List (List Char)} (hfree : ∀ l ∈ ls, '\n' ∉ l)
    (hlast : ∀ l ∈ ls, l.getLast? = some '|') :
    Text.lineChars (Text.dropEndWhile Text.isBlank (ls.map (· ++ ['\n'])).flatten) = ls := by
  rcases List.eq_nil_or_concat ls with rfl | ⟨front, last, rfl⟩
  · rfl
  · rw [List.concat_eq_append] at hfree hlast ⊢
    have hflatten : ((front ++ [last]).map (· ++ ['\n'])).flatten =
        Text.unlines (front ++ [last]) ++ ['\n'] := by
      clear hfree hlast
      induction front with
      | nil => simp [Text.unlines, Text.joinWith]
      | cons l front ih =>
        rw [List.cons_append, List.map_cons, List.flatten_cons, ih, ← List.cons_append,
          Text.unlines_cons_concat]
        simp
    have hne : last ≠ [] := by
      rintro rfl
      exact absurd (hlast [] (by simp)) (by decide)
    have hbar : ∀ c ∈ (Text.unlines (front ++ [last])).getLast?, Text.isBlank c = false := by
      rw [Text.getLast?_unlines_concat front hne, hlast last (by simp)]
      rintro c ⟨⟩
      decide
    have hreturn : front.map Text.dropReturn = front := by
      refine (List.map_congr_left fun l hl => ?_).trans (List.map_id front)
      exact Text.dropReturn_of_getLast?_ne (by rw [hlast l (by simp [hl])]; decide)
    rw [hflatten, Text.dropEndWhile_append_of_pos (by decide), Text.dropEndWhile_eq_self hbar,
      Text.lineChars_unlines (fun l hl => hfree l (by simp [hl])) (hfree last (by simp)), hreturn,
      if_neg hne]

/-! ## Grids -/

theorem width_cons (row : List (List Char)) (rows : List (List (List Char))) :
    width (row :: rows) = max row.length (width rows) := by
  show (rows.map List.length).foldl max (max 0 row.length) =
    max row.length ((rows.map List.length).foldl max 0)
  rw [Nat.max_comm 0, List.foldl_assoc]

theorem length_le_width {row : List (List Char)} (h : row ∈ rows) : row.length ≤ width rows := by
  induction rows with
  | nil => cases h
  | cons first rows ih =>
    rw [width_cons]
    rcases List.mem_cons.1 h with rfl | h
    · exact Nat.le_max_left _ _
    · exact (ih h).trans (Nat.le_max_right _ _)

theorem length_padded {row : List (List Char)} (h : row.length ≤ n) :
    (padded n row).length = n := by
  rw [padded, List.length_append, List.length_replicate, Nat.add_sub_cancel' h]

/-- All lines of a table have as many cells as the widest row. -/
theorem length_of_mem_laidOut {header : Bool} {line : List (List Char)}
    (h : line ∈ laidOut header rows) : line.length = width rows := by
  have hrows : ∀ line ∈ rows.map (padded (width rows)), line.length = width rows := by
    intro line hline
    obtain ⟨row, hrow, rfl⟩ := List.mem_map.1 hline
    exact length_padded (length_le_width hrow)
  rw [laidOut] at h
  split at h
  · cases h
  · next first rest heq =>
    rw [heq] at hrows
    obtain ⟨hfirst, hrest⟩ := List.forall_mem_cons.1 hrows
    cases header with
    | true =>
      rcases List.mem_cons.1 h with rfl | h
      · exact hfirst
      · rcases List.mem_cons.1 h with rfl | h
        · exact List.length_replicate
        · exact hrest line h
    | false =>
      rcases List.mem_cons.1 h with rfl | h
      · exact List.length_replicate
      · rcases List.mem_cons.1 h with rfl | h
        · exact List.length_replicate
        · exact hrows line h

/-- The cells of a table that is laid out are those of its rows, dashes and empty ones. -/
theorem mem_laidOut {header : Bool} {line : List (List Char)} {cell : List Char}
    (h : line ∈ laidOut header rows) (hcell : cell ∈ line) :
    cell = [] ∨ cell = ['-', '-', '-'] ∨ ∃ row ∈ rows, cell ∈ row := by
  have hrows : ∀ line ∈ rows.map (padded (width rows)), cell ∈ line →
      cell = [] ∨ ∃ row ∈ rows, cell ∈ row := by
    intro line hline hcell
    obtain ⟨row, hrow, rfl⟩ := List.mem_map.1 hline
    rcases List.mem_append.1 hcell with hcell | hcell
    · exact .inr ⟨row, hrow, hcell⟩
    · exact .inl (List.eq_of_mem_replicate hcell)
  have hmem : line = List.replicate (width rows) [] ∨ line = divider (width rows) ∨
      line ∈ rows.map (padded (width rows)) := by
    rw [laidOut] at h
    split at h
    · cases h
    · next first rest heq =>
      rw [heq]
      cases header <;> simp at h ⊢ <;> tauto
  rcases hmem with rfl | rfl | hline
  · exact .inl (List.eq_of_mem_replicate hcell)
  · exact .inr (.inl (List.eq_of_mem_replicate hcell))
  · exact (hrows line hline hcell).imp_right .inr

/-! ## What is written -/

/-- The lines of a table are those of the cells that are kept. -/
theorem lineChars_tableMarkdown
    (h : ∀ row ∈ table.filledRows, ∀ cell ∈ row.cells, '\n' ∉ cellText cell) :
    Text.lineChars (tableMarkdown table) = (keptGrid table).map gridLine := by
  have hfree : ∀ line ∈ (keptGrid table).map gridLine, '\n' ∉ line := by
    intro line hline
    obtain ⟨cells, hcells, rfl⟩ := List.mem_map.1 hline
    refine not_mem_gridLine fun cell hcell => ?_
    rcases mem_laidOut hcells hcell with rfl | rfl | ⟨_, hrow, hcell⟩
    · exact List.not_mem_nil
    · decide
    · rw [tableRows_eq, List.map_map] at hrow
      obtain ⟨row, hfilled, rfl⟩ := List.mem_map.1 hrow
      obtain ⟨d, hd, rfl⟩ := List.mem_map.1 ((rowCells_sublist row).subset hcell)
      exact h row hfilled d hd
  have hlast : ∀ line ∈ (keptGrid table).map gridLine, line.getLast? = some '|' := by
    intro line hline
    obtain ⟨cells, -, rfl⟩ := List.mem_map.1 hline
    exact getLast?_gridLine cells
  rw [← lineChars_flatten hfree hlast, List.map_map]
  refine congrArg Text.lineChars ?_
  have hline : (· ++ ['\n']) ∘ gridLine = tableLine := funext fun cells => (tableLine_eq cells).symm
  rw [hline, keptGrid, laidOut, tableMarkdown]
  have hcolumns : ((tableRows table).map (·.2.length)).foldl Nat.max 0 =
      width ((tableRows table).map (·.2)) := by
    rw [width, List.map_map]
    rfl
  simp only [hcolumns]
  cases hrows : tableRows table with
  | nil => rfl
  | cons first rest =>
    have hfirst : 0 < first.2.length := by
      have hmem : first ∈ tableRows table := hrows ▸ List.mem_cons_self
      have hfilled := (List.mem_filter.1 hmem).2
      simpa [List.length_pos_iff] using hfilled
    have hwidth : width ((first :: rest).map (·.2)) ≠ 0 := by
      have hle : first.2.length ≤ width ((first :: rest).map (·.2)) :=
        length_le_width (List.mem_map_of_mem List.mem_cons_self)
      omega
    rw [if_neg (by rwa [beq_iff_eq])]
    cases hasHeader (first :: rest) <;> simp [divider, Function.comp_def]

/-! ## Tables that are written in full -/

theorem tableRows_eq_of_isRegular (h : IsRegular table) :
    tableRows table = table.filledRows.map fun row => (row.isHeading, row.cells.map cellText) := by
  rw [tableRows_eq]
  exact List.map_congr_left fun row hrow =>
    rowCells_of_unmixed (cells_ne_nil hrow) (h.unmixed row hrow)

theorem keptGrid_eq_fullGrid (h : IsRegular table) : keptGrid table = fullGrid table := by
  rw [keptGrid, fullGrid, tableRows_eq_of_isRegular h, List.map_map]
  refine congrArg (laidOut · _) ?_
  cases hrows : table.filledRows with
  | nil => rfl
  | cons first rest =>
    show (first.isHeading && (rest.map fun row => (row.isHeading, row.cells.map cellText)).all
      (!·.1)) = first.isHeading
    rw [List.all_map, Bool.and_eq_left_iff_imp, List.all_eq_true]
    intro hfirst row hrow
    have hsingle := h.single
    rw [hrows] at hsingle
    exact congrArg not (hsingle hfirst row hrow)

/-! ## The lengths of lines -/

theorem length_joinWith (cell : List Char) (cells : List (List Char)) :
    (Text.joinWith [' ', '|', ' '] (cell :: cells)).length =
      (cell :: cells).flatten.length + 3 * cells.length := by
  induction cells generalizing cell with
  | nil => simp [Text.joinWith]
  | cons next cells ih =>
    rw [Text.joinWith, List.length_append, List.length_append, ih]
    simp only [List.flatten_cons, List.length_append, List.length_cons, List.length_nil]
    omega

theorem length_flatten_padded (cells : List (List Char)) (n : Nat) :
    (padded n cells).flatten.length = cells.flatten.length := by
  simp [padded]

/-- Lines of equally many cells are as long as their cells are together. -/
theorem length_flatten_of_gridLine {cells others : List (List Char)}
    (hlength : cells.length = others.length)
    (h : gridLine cells = gridLine others) : cells.flatten.length = others.flatten.length := by
  have hline := congrArg List.length h
  simp only [gridLine, List.length_append] at hline
  match cells, others with
  | [], [] => rfl
  | cell :: cells, other :: others =>
    rw [length_joinWith, length_joinWith] at hline
    simp only [List.length_cons] at hlength
    omega

theorem length_gridLine_divider (n : Nat) : (gridLine (divider n)).length = 6 * n + 1 ∨
    n = 0 ∧ (gridLine (divider n)).length = 4 := by
  cases n with
  | zero => exact .inr ⟨rfl, rfl⟩
  | succ n =>
    rw [gridLine, divider, List.replicate_succ, List.length_append, List.length_append,
      length_joinWith]
    simp only [List.flatten_cons, List.length_append, List.length_flatten,
      List.map_replicate, List.sum_replicate_nat, List.length_replicate, List.length_cons,
      List.length_nil]
    omega

/-- The line below the header shows the number of columns. -/
theorem divider_inj {m n : Nat} (h : gridLine (divider m) = gridLine (divider n)) : m = n := by
  have hline := congrArg List.length h
  have hm := length_gridLine_divider m
  have hn := length_gridLine_divider n
  omega

/-- A list without empty entries has no part that is as long but for it itself. -/
theorem length_add_flatten_le {kept all : List (List Char)} (h : kept.Sublist all)
    (hne : ∀ cell ∈ all, cell ≠ []) :
    kept.flatten.length + all.length ≤ all.flatten.length + kept.length := by
  induction h with
  | slnil => rfl
  | cons cell _ ih =>
    have hcell := List.length_pos_of_ne_nil (hne cell List.mem_cons_self)
    have := ih fun cell hcell => hne cell (List.mem_cons_of_mem _ hcell)
    simp only [List.flatten_cons, List.length_append, List.length_cons]
    omega
  | cons_cons cell _ ih =>
    have := ih fun cell hcell => hne cell (List.mem_cons_of_mem _ hcell)
    simp only [List.flatten_cons, List.length_append, List.length_cons]
    omega

/-- Tables of equally many rows with the same lines have their header in the same place, the same
number of columns, and the same line for every row. -/
theorem laidOut_inj {header header' : Bool} {rows rows' : List (List (List Char))}
    (hlength : rows.length = rows'.length) (hne : rows ≠ [])
    (h : (laidOut header rows).map gridLine = (laidOut header' rows').map gridLine) :
    header = header' ∧ width rows = width rows' ∧
      (rows.map (padded (width rows))).map gridLine =
        (rows'.map (padded (width rows'))).map gridLine := by
  match rows, rows' with
  | first :: rest, first' :: rest' =>
    have hlines := congrArg List.length h
    rw [laidOut, laidOut] at h hlines
    cases header <;> cases header'
    · simp only [List.map_cons, if_false, Bool.false_eq_true, List.cons.injEq] at h
      exact ⟨rfl, divider_inj h.2.1, by simpa using h.2.2⟩
    · simp at hlines hlength
      omega
    · simp at hlines hlength
      omega
    · simp only [List.map_cons, if_true, List.cons.injEq] at h
      exact ⟨rfl, divider_inj h.2.1, by simpa using And.intro h.1 h.2.2⟩

/-- A row without empty cells whose line is written in full does not mix cells. -/
theorem unmixed_of_gridLine (hwidth : row.cells.length ≤ n)
    (hne : ∀ cell ∈ row.cells, cellText cell ≠ [])
    (h : gridLine (padded n (rowCells row).2) = gridLine (padded n (row.cells.map cellText))) :
    row.isHeading = true ∨ ∀ cell ∈ row.cells, cell.isHeaderCell = false := by
  have hkept := (rowCells_sublist row).length_le
  rw [List.length_map] at hkept
  have hlength : (padded n (rowCells row).2).length =
      (padded n (row.cells.map cellText)).length := by
    rw [length_padded (hkept.trans hwidth), length_padded (by rwa [List.length_map])]
  have hflatten := length_flatten_of_gridLine hlength h
  rw [length_flatten_padded, length_flatten_padded] at hflatten
  have hle := length_add_flatten_le (rowCells_sublist row) (by simpa using hne)
  rw [List.length_map] at hle
  exact isHeading_or_plain_of_length (by omega)

/-- A table without empty cells that is written in full is regular. -/
theorem isRegular_of_gridLine
    (hne : ∀ row ∈ table.filledRows, ∀ cell ∈ row.cells, cellText cell ≠ [])
    (h : (keptGrid table).map gridLine = (fullGrid table).map gridLine) : IsRegular table := by
  by_cases hrows : table.filledRows = []
  · exact ⟨by simp [hrows], by simp [hrows]⟩
  rw [keptGrid, tableRows_eq, List.map_map] at h
  obtain ⟨hheader, hwidth, hlines⟩ := laidOut_inj (by simp) (by simpa using hrows) h
  rw [hwidth, List.map_map, List.map_map, List.map_map, List.map_map, List.map_inj_left] at hlines
  have hunmixed : ∀ row ∈ table.filledRows, row.isHeading = true ∨
      ∀ cell ∈ row.cells, cell.isHeaderCell = false := by
    intro row hrow
    refine unmixed_of_gridLine ?_ (hne row hrow) (hlines row hrow)
    rw [← List.length_map cellText]
    exact length_le_width (List.mem_map_of_mem hrow)
  refine ⟨hunmixed, fun hfirst row hrow => ?_⟩
  have hfilled := List.mem_of_mem_tail hrow
  have hlater := (Bool.and_eq_true_iff.1 (hheader.trans hfirst)).2
  rw [← List.map_drop, List.drop_one, List.all_map, List.all_eq_true] at hlater
  have hrest := hlater row hrow
  rwa [Function.comp_apply, rowCells_of_unmixed (cells_ne_nil hfilled) (hunmixed row hfilled),
    Bool.not_eq_true'] at hrest

/-- A table whose cells are each on one line is written with the cells its rows keep, as many in
each line. These are all its cells, in the order of the page, if no row mixes cells and no row
behind a header at the start is another; and a table with a text in every cell is written in full
in no other case. -/
theorem tableMarkdown_complete
    (h : ∀ row ∈ table.filledRows, ∀ cell ∈ row.cells, '\n' ∉ cellText cell) :
    (Text.lineChars (tableMarkdown table) = (keptGrid table).map gridLine ∧
      ∀ line ∈ keptGrid table, line.length = width ((tableRows table).map (·.2))) ∧
    (IsRegular table → Text.lineChars (tableMarkdown table) = (fullGrid table).map gridLine) ∧
    ((∀ row ∈ table.filledRows, ∀ cell ∈ row.cells, cellText cell ≠ []) →
      Text.lineChars (tableMarkdown table) = (fullGrid table).map gridLine → IsRegular table) := by
  have hkept := lineChars_tableMarkdown h
  refine ⟨⟨hkept, fun _ => length_of_mem_laidOut⟩, fun hregular => ?_, fun hne hfull => ?_⟩
  · rw [hkept, keptGrid_eq_fullGrid hregular]
  · exact isRegular_of_gridLine hne (hkept.symm.trans hfull)

/-! ## Two tables -/

/-- A cell with a text. -/
def cellOf (name text : String) : Dom := .element .page name [] [.text text.toList]

/-- A table with these cells in its rows. -/
def tableOf (rows : List (List Dom)) : Dom :=
  .element .page "table" [] (rows.map fun cells => .element .page "tr" [] cells)

/-- A table of prices: a header and two rows, one of them short. -/
def prices : Dom :=
  tableOf [[cellOf "th" "a|b", cellOf "th" " c "], [cellOf "td" "1"],
    [cellOf "td" "2", cellOf "td" "3"]]

/-- A table whose one row begins with a header cell. -/
def labelled : Dom := tableOf [[cellOf "th" "a", cellOf "td" "b"]]

theorem prices_complete :
    (∀ row ∈ prices.filledRows, ∀ cell ∈ row.cells, '\n' ∉ cellText cell) ∧ IsRegular prices ∧
    Text.lineChars (tableMarkdown prices) =
      ["| a\\|b | c |", "| --- | --- |", "| 1 |  |", "| 2 | 3 |"].map String.toList := by
  have hlines : ∀ row ∈ prices.filledRows, ∀ cell ∈ row.cells, '\n' ∉ cellText cell := by decide
  have hregular : IsRegular prices := ⟨by decide, by decide⟩
  refine ⟨hlines, hregular, ((tableMarkdown_complete hlines).2.1 hregular).trans ?_⟩
  decide

/-- Of a row that begins with a header cell the other cells are lost. -/
theorem table_loses_cell : ¬ ∀ table : Dom,
    (∀ row ∈ table.filledRows, ∀ cell ∈ row.cells, '\n' ∉ cellText cell) →
    Text.lineChars (tableMarkdown table) = (fullGrid table).map gridLine := by
  intro hall
  have hlost := hall labelled (by decide)
  revert hlost
  decide

/-- A second header behind the first makes an ordinary row of it, and the header empty. -/
example : Text.lineChars (tableMarkdown (tableOf [[cellOf "th" "a"], [cellOf "th" "b"]])) =
    ["|  |", "| --- |", "| a |", "| b |"].map String.toList := by
  decide

end ContextCompiler.Html
