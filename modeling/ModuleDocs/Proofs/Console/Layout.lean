import Mathlib.Algebra.Order.BigOperators.Group.List
import Mathlib.Algebra.Order.Group.Nat
import ModuleDocs.Proofs.Console.Literal
import ModuleDocs.Proofs.Console.Wrap

/-!
# Tables on a console

Columns that fit a console are as wide as their texts ask for, and then each row of a table stands on a line of its own.
With what a console does to texts this makes its printer lawful: `printer_lawful`.
-/

namespace ModuleDocs.Console

open Markup Text

namespace Table

/-! ### Widths -/

theorem le_foldl_max (ns : List Nat) (a : Nat) : a ≤ ns.foldl max a ∧ ∀ n ∈ ns, n ≤ ns.foldl max a := by
  induction ns generalizing a with
  | nil => simp
  | cons n ns ih =>
    obtain ⟨hstart, hrest⟩ := ih (max a n)
    rw [List.foldl_cons]
    refine ⟨Nat.le_trans (Nat.le_max_left a n) hstart, List.forall_mem_cons.mpr ⟨?_, hrest⟩⟩
    exact Nat.le_trans (Nat.le_max_right a n) hstart

theorem foldl_max_eq {ns : List Nat} {n : Nat} (hne : ns ≠ []) (h : ∀ m ∈ ns, m = n) : ns.foldl max 0 = n := by
  obtain ⟨m, rest, rfl⟩ := List.exists_cons_of_ne_nil hne
  have hrest : rest.foldl max n = n := by
    have hreplicate := List.eq_replicate_of_mem fun k hk => h k (List.mem_cons_of_mem m hk)
    rw [hreplicate]
    generalize rest.length = count
    induction count with
    | zero => rfl
    | succ count ih => rw [List.replicate_succ, List.foldl_cons, Nat.max_self, ih]
  rw [List.foldl_cons, Nat.zero_max, h m (List.mem_cons_self ..), hrest]

theorem span_eq_sum (ws : List Nat) : span ws = ws.sum := List.sum_eq_foldl.symm

theorem narrow_fits {room : Nat} {ws : List Nat} (h : span ws ≤ room) (rounds : Nat) : narrow room rounds ws = ws := by
  cases rounds with
  | zero => rfl
  | succ rounds =>
    rw [narrow]
    dsimp only
    rw [if_pos (Nat.sub_eq_zero_of_le h)]

/-- The width that a column asks for, given its shown texts. -/
def asked (cells : List Text) : Nat := (cells.map needed).foldl max 0 + padding

theorem needed_add_padding_le {cells : List Text} {cell : Text} (h : cell ∈ cells) :
    needed cell + padding ≤ asked cells :=
  Nat.add_le_add_right ((le_foldl_max _ 0).2 _ (List.mem_map_of_mem h)) padding

/-- Columns that fit the console are as wide as they ask for. -/
theorem widths_fits {console : Nat} {columns : List (List Text)}
    (h : span (columns.map asked) + columns.length + 1 ≤ console) : widths console columns = columns.map asked := by
  have hnatural : (columns.map fun cells => min (console - (columns.length + 1)) (asked cells)) =
      columns.map asked := by
    refine List.map_congr_left fun cells hcells => Nat.min_eq_right ?_
    have hle := List.le_sum_of_mem (List.mem_map_of_mem (f := asked) hcells)
    rw [span_eq_sum] at h
    omega
  unfold asked at h hnatural ⊢
  unfold widths
  dsimp only
  rw [hnatural]
  exact narrow_fits (by omega) _

theorem neededFrom_of_unbroken {t : Text} (h : ∀ c ∈ t, c.endsLine = false) (line : Nat) :
    neededFrom line t = line + t.cells := by
  induction t generalizing line with
  | nil => rfl
  | cons c cs ih =>
    obtain ⟨hc, hcs⟩ := List.forall_mem_cons.mp h
    rw [neededFrom, if_neg (by simp [hc]), ih hcs, cells_cons, Nat.add_assoc]

theorem needed_of_unbroken {t : Text} (h : ∀ c ∈ t, c.endsLine = false) : needed t = t.cells := by
  rw [needed, neededFrom_of_unbroken h, Nat.zero_add]

/-! ### Cells -/

theorem hasEncoding_cellLines {align : Align} {width : Nat} {cell : Text} (h : HasEncoding cell) :
    ∀ l ∈ cellLines align width cell, HasEncoding l := by
  intro l hl
  obtain ⟨part, hpart, rfl⟩ := List.mem_map.mp hl
  have hencoded := hasEncoding_wrap .ellipsis h part hpart
  simp [hasEncoding_blanks, hasEncoding_place .ellipsis align hencoded]

theorem cellLines_fits {width : Nat} {cell : Text} (hcell : OneLine CodePoint.cells cell)
    (h : cell.cells + padding ≤ width) :
    cellLines .left width cell = [blanks 1 ++ (cell ++ blanks (width - padding - cell.cells)) ++ blanks 1] := by
  have hcells : cell.cells ≤ width - padding := by omega
  have hbreak : CodePoint.ofChar '\n' ∉ cell := fun hmem => absurd (hcell.unbroken _ hmem) (by decide)
  have hend : cell.length ≤ width - padding ∨ cell.stripRight = cell :=
    hcell.ended.imp_left fun hlength => Nat.le_trans hlength hcells
  rw [cellLines, wrap_fits .ellipsis hbreak hcell.untabbed hend hcells, List.map_singleton,
    place_left_fits .ellipsis hcells]

/-! ### Rows -/

theorem hasEncoding_line {start divider stop : String} {pieces : List Text} :
    HasEncoding (line start divider stop pieces) ↔ ∀ piece ∈ pieces, HasEncoding piece := by
  change HasEncoding (ofString start ++ join (ofString divider) pieces ++ ofString stop) ↔ _
  rw [hasEncoding_append, hasEncoding_append, hasEncoding_join (hasEncoding_ofString divider)]
  simp

theorem hasEncoding_rule (start mark divider stop : String) (ws : List Nat) :
    HasEncoding (rule start mark divider stop ws) := by
  rw [rule, hasEncoding_line]
  intro piece hpiece
  obtain ⟨width, _, rfl⟩ := List.mem_map.mp hpiece
  rw [hasEncoding_flatten]
  intro t ht
  rw [List.eq_of_mem_replicate ht]
  exact hasEncoding_ofString mark

/-- The lines of a row, given the width and the lines of each cell. -/
def stacked (divider : String) (blocks : List (Nat × List Text)) : List Text :=
  (List.range ((blocks.map fun b => b.2.length).foldl max 0)).map fun i =>
    line divider divider divider (blocks.map fun b => (b.2[i]?).getD (blanks b.1))

theorem rowLines_eq_stacked (divider : String) (shape : List (Align × Nat)) (cells : List Text) :
    rowLines divider shape cells =
      stacked divider ((shape.zip cells).map fun p => (p.1.2, cellLines p.1.1 p.1.2 p.2)) := rfl

theorem hasEncoding_stacked {divider : String} {blocks : List (Nat × List Text)}
    (h : ∀ b ∈ blocks, ∀ l ∈ b.2, HasEncoding l) : ∀ l ∈ stacked divider blocks, HasEncoding l := by
  unfold stacked
  simp only [List.forall_mem_map, List.mem_range, hasEncoding_line]
  intro i _ b hb
  cases hget : b.2[i]? with
  | none => exact hasEncoding_blanks b.1
  | some l => exact h b hb l (List.mem_of_getElem? hget)

theorem stacked_of_length {divider : String} {blocks : List (Nat × List Text)} (hne : blocks ≠ [])
    (h : ∀ b ∈ blocks, b.2.length = 1) :
    stacked divider blocks =
      [line divider divider divider (blocks.map fun b => (b.2[0]?).getD (blanks b.1))] := by
  have hheight : (blocks.map fun b => b.2.length).foldl max 0 = 1 := by
    refine foldl_max_eq (by simpa using hne) fun m hm => ?_
    obtain ⟨b, hb, rfl⟩ := List.mem_map.mp hm
    exact h b hb
  rw [stacked, hheight]
  rfl

theorem hasEncoding_rowLines {divider : String} {shape : List (Align × Nat)} {cells : List Text}
    (h : ∀ cell ∈ cells, HasEncoding cell) : ∀ l ∈ rowLines divider shape cells, HasEncoding l := by
  rw [rowLines_eq_stacked]
  refine hasEncoding_stacked fun b hb => ?_
  obtain ⟨p, hp, rfl⟩ := List.mem_map.mp hb
  exact hasEncoding_cellLines (h p.2 (List.of_mem_zip hp).2)

theorem rowLines_fits {divider : String} {ws : List Nat} {cells : List Text} (hne : ws.zip cells ≠ [])
    (h : ∀ p ∈ ws.zip cells, OneLine CodePoint.cells p.2 ∧ p.2.cells + padding ≤ p.1) :
    rowLines divider (ws.map (Align.left, ·)) cells =
      [line divider divider divider ((ws.zip cells).map fun p =>
        blanks 1 ++ (p.2 ++ blanks (p.1 - padding - p.2.cells)) ++ blanks 1)] := by
  have hblocks : ((ws.map (Align.left, ·)).zip cells).map (fun p => (p.1.2, cellLines p.1.1 p.1.2 p.2)) =
      (ws.zip cells).map fun p =>
        (p.1, [blanks 1 ++ (p.2 ++ blanks (p.1 - padding - p.2.cells)) ++ blanks 1]) := by
    rw [List.zip_map_left, List.map_map]
    refine List.map_congr_left fun p hp => ?_
    obtain ⟨hline, hcells⟩ := h p hp
    exact congrArg (Prod.mk p.1) (cellLines_fits hline hcells)
  rw [rowLines_eq_stacked, hblocks, stacked_of_length (by simpa using hne), List.map_map]
  · rfl
  · intro b hb
    obtain ⟨p, _, rfl⟩ := List.mem_map.mp hb
    rfl

/-! ### Texts of a table -/

theorem mem_columnTexts {t : Table} (h : t.Rectangular) {x : Text} (hx : x ≠ []) :
    (∃ column ∈ t.columns.zipIdx, x ∈ t.columnTexts column) ↔
      x ∈ t.columns.map Column.heading ∨ ∃ row ∈ t.rows, x ∈ row := by
  constructor
  · rintro ⟨column, hcolumn, hmem⟩
    rcases List.mem_cons.mp hmem with rfl | hmem
    · exact Or.inl (List.mem_map_of_mem (List.fst_mem_of_mem_zipIdx hcolumn))
    · obtain ⟨row, hrow, hget⟩ := List.mem_map.mp hmem
      cases hcell : row[column.2]? with
      | none =>
        rw [hcell] at hget
        exact absurd hget.symm hx
      | some cell =>
        rw [hcell] at hget
        cases hget
        exact Or.inr ⟨row, hrow, List.mem_of_getElem? hcell⟩
  · rintro (hmem | ⟨row, hrow, hmem⟩)
    · obtain ⟨column, hcolumn, rfl⟩ := List.mem_map.mp hmem
      obtain ⟨i, hi, rfl⟩ := List.getElem_of_mem hcolumn
      exact ⟨_, List.mk_mem_zipIdx_iff_getElem?.mpr (List.getElem?_eq_getElem hi), List.mem_cons_self ..⟩
    · obtain ⟨i, hi, rfl⟩ := List.getElem_of_mem hmem
      have hcolumn : i < t.columns.length := by rwa [← h row hrow]
      have hcell : (row[i]?).getD [] = row[i] := by rw [List.getElem?_eq_getElem hi, Option.getD_some]
      refine ⟨_, List.mk_mem_zipIdx_iff_getElem?.mpr (List.getElem?_eq_getElem hcolumn), ?_⟩
      exact List.mem_cons_of_mem _ (List.mem_map.mpr ⟨row, hrow, hcell⟩)

theorem forall_mem_texts {t : Table} {p : Text → Prop} :
    (∀ x ∈ t.texts, p x) ↔
      p t.title ∧ (∀ column ∈ t.columns, p column.heading) ∧ ∀ row ∈ t.rows, ∀ x ∈ row, p x := by
  simp only [texts, List.forall_mem_cons, List.forall_mem_append, List.forall_mem_map, List.forall_mem_flatten]

/-- A table has no lines exactly if one of its texts cannot be shown. -/
theorem lines_failsOn {t : Table} (h : t.Rectangular) (lexicon : Lexicon) (console : Nat) :
    FailsOn (t.lines lexicon console) fun f => ∃ x ∈ t.texts, plainText lexicon x = .error f := by
  have htext : ∀ x, FailsOn (plainText lexicon x) fun f => plainText lexicon x = .error f :=
    fun x => ⟨fun _ hf => hf, fun f hf => ⟨f, hf⟩⟩
  have hcolumn : ∀ column ∈ t.columns.zipIdx,
      FailsOn (t.shownColumn lexicon column) fun f => ∃ x ∈ t.columnTexts column, plainText lexicon x = .error f :=
    fun column _ => FailsOn.mapM fun x _ => htext x
  refine ((FailsOn.mapM hcolumn).bind fun columns _ => (htext t.title).bind fun title _ => FailsOn.ok _).congr
    fun f => ?_
  have hfaulty : ∀ {x}, plainText lexicon x = .error f → x ≠ [] := by
    rintro x hf rfl
    cases hf
  constructor
  · rintro (⟨column, hmem, x, hx, hf⟩ | hf | hnone)
    · rcases (mem_columnTexts h (hfaulty hf)).mp ⟨column, hmem, hx⟩ with hheading | ⟨row, hrow, hcell⟩
      · exact ⟨x, List.mem_cons_of_mem _ (List.mem_append_left _ hheading), hf⟩
      · exact ⟨x, List.mem_cons_of_mem _ (List.mem_append_right _ (List.mem_flatten.mpr ⟨row, hrow, hcell⟩)), hf⟩
    · exact ⟨t.title, List.mem_cons_self .., hf⟩
    · exact hnone.elim
  · rintro ⟨x, hx, hf⟩
    rcases List.mem_cons.mp hx with rfl | hx
    · exact Or.inr (Or.inl hf)
    · rw [List.mem_append, List.mem_flatten] at hx
      obtain ⟨column, hmem, hcolumn⟩ := (mem_columnTexts h (hfaulty hf)).mpr hx
      exact Or.inl ⟨column, hmem, x, hcolumn, hf⟩

def titleLines (ws : List Nat) (title : Text) : List Text :=
  (wrap .fold (span ws + ws.length + 1) title).map fun l => Align.center.place .fold (span ws + ws.length + 1) l

theorem hasEncoding_titleLines {ws : List Nat} {title : Text} (h : HasEncoding title) :
    ∀ l ∈ titleLines ws title, HasEncoding l := by
  intro l hl
  obtain ⟨part, hpart, rfl⟩ := List.mem_map.mp hl
  exact hasEncoding_place .fold .center (hasEncoding_wrap .fold h part hpart)

end Table

/-! ### Tables as they are printed -/

namespace Printer

open Table

variable {p : Printer} {lexicon : Lexicon} {width : Nat} {t : Table}

def displayed (p : Printer) (t : Table) : List (List Text) :=
  t.columns.zipIdx.map fun column => (t.columnTexts column).map p.display

theorem length_displayed (p : Printer) (t : Table) : (p.displayed t).length = t.columns.length := by
  rw [displayed, List.length_map, List.length_zipIdx]

def body (p : Printer) (width : Nat) (t : Table) (divider : String) (row : List Text) : List Text :=
  rowLines divider ((t.columns.map Column.align).zip (widths width (p.displayed t))) (row.map p.display)

theorem display_of_ok {x shown : Text} (h : plainText lexicon x = .ok shown) :
    (printer lexicon width).display x = shown := by
  simp [display, printer, h, Except.mapError, Except.toOption]

theorem shownRow_zero : shownRow (p.displayed t) 0 = (t.columns.map Column.heading).map p.display := by
  have hfirst : shownRow (p.displayed t) 0 = t.columns.zipIdx.map fun column => p.display column.1.heading := by
    simp [shownRow, displayed, columnTexts]
  have hcolumns := congrArg (List.map fun column => p.display column.heading) (List.zipIdx_map_fst 0 t.columns)
  rw [List.map_map] at hcolumns
  rw [List.map_map]
  exact hfirst.trans hcolumns

theorem shownRow_succ (h : t.Rectangular) {i : Nat} (hi : i < t.rows.length) :
    shownRow (p.displayed t) (i + 1) = t.rows[i].map p.display := by
  have hlength := h t.rows[i] (List.getElem_mem hi)
  refine List.ext_getElem ?_ fun j hj hj' => ?_
  · rw [shownRow, List.length_map, length_displayed, List.length_map, hlength]
  · rw [List.length_map] at hj'
    simp [shownRow, displayed, columnTexts, hi, hj']

/-- The lines of a table are those of its rows, in order, between its head and its foot. -/
theorem lines_eq_ok (h : t.Rectangular) {ls : List Text} (hlines : t.lines lexicon width = .ok ls) :
    let p := printer lexicon width
    let ws := widths width (p.displayed t)
    ls = titleLines ws (p.display t.title) ++ [rule "┏" "━" "┳" "┓" ws] ++
      p.body width t "┃" (t.columns.map Column.heading) ++ [rule "┡" "━" "╇" "┩" ws] ++
      t.rows.flatMap (p.body width t "│") ++ [rule "└" "─" "┴" "┘" ws] := by
  intro p ws
  unfold lines at hlines
  obtain ⟨columns, hcolumns, hlines⟩ := bind_eq_ok.mp hlines
  obtain ⟨title, htitle, hlines⟩ := bind_eq_ok.mp hlines
  have hdisplayed : columns = p.displayed t :=
    mapM_eq_ok (fun column shown hshown => mapM_eq_ok (fun x s hs => (display_of_ok hs).symm) hshown) hcolumns
  have hrows : (List.range t.rows.length).map (fun i =>
      rowLines "│" ((t.columns.map Column.align).zip ws) (shownRow (p.displayed t) (i + 1))) =
      t.rows.map (p.body width t "│") := by
    refine List.ext_getElem (by simp) fun i hi hi' => ?_
    rw [List.length_map] at hi'
    rw [List.getElem_map, List.getElem_map, List.getElem_range, shownRow_succ h hi', body]
  cases hlines
  have hdisplay : p.display t.title = title := display_of_ok htitle
  rw [hdisplayed, ← hdisplay, shownRow_zero, List.flatMap_def, hrows, titleLines,
    ← List.flatMap_def, body]

/-- The lines of a table can be encoded if its shown texts can. -/
theorem hasEncoding_lines (h : t.Rectangular) {ls : List Text} (hlines : t.lines lexicon width = .ok ls)
    (hshown : ∀ x ∈ t.texts, HasEncoding ((printer lexicon width).display x)) : ∀ l ∈ ls, HasEncoding l := by
  obtain ⟨htitle, hheadings, hrows⟩ := forall_mem_texts.mp hshown
  rw [lines_eq_ok h hlines]
  simp only [List.forall_mem_append, List.forall_mem_singleton, List.forall_mem_flatMap, hasEncoding_rule, and_true]
  refine ⟨⟨hasEncoding_titleLines htitle, ?_⟩, fun row hrow => ?_⟩
  · refine hasEncoding_rowLines (List.forall_mem_map.mpr ?_)
    exact List.forall_mem_map.mpr hheadings
  · exact hasEncoding_rowLines (List.forall_mem_map.mpr (hrows row hrow))

/-! ### Tables that fit -/

theorem columnWidths_eq (h : p.Fits width CodePoint.cells t) :
    p.columnWidths CodePoint.cells t = (p.displayed t).map asked := by
  rw [columnWidths, displayed, List.map_map]
  refine List.map_congr_left fun column hcolumn => ?_
  have hneeded : (t.columnTexts column).map (fun x => (p.display x).total CodePoint.cells) =
      ((t.columnTexts column).map p.display).map needed := by
    rw [List.map_map]
    exact List.map_congr_left fun x hx => (needed_of_unbroken (h.single column hcolumn x hx).unbroken).symm
  rw [columnWidth, hneeded]
  rfl

theorem widths_of_fits (h : p.Fits width CodePoint.cells t) :
    widths width (p.displayed t) = p.columnWidths CodePoint.cells t := by
  have hroom := h.room
  rw [columnWidths_eq h] at hroom ⊢
  rw [← span_eq_sum] at hroom
  exact widths_fits (by rwa [length_displayed])

def InColumns (t : Table) (row : List Text) : Prop :=
  row.length = t.columns.length ∧
    ∀ i x, row[i]? = some x → ∃ column, (column, i) ∈ t.columns.zipIdx ∧ x ∈ t.columnTexts (column, i)

theorem headings_inColumns (t : Table) : InColumns t (t.columns.map Column.heading) := by
  refine ⟨List.length_map _, fun i x hx => ?_⟩
  rw [List.getElem?_map, Option.map_eq_some_iff] at hx
  obtain ⟨column, hcolumn, rfl⟩ := hx
  exact ⟨column, List.mk_mem_zipIdx_iff_getElem?.mpr hcolumn, List.mem_cons_self ..⟩

theorem row_inColumns (h : t.Rectangular) {row : List Text} (hrow : row ∈ t.rows) : InColumns t row := by
  refine ⟨h row hrow, fun i x hx => ?_⟩
  have hi : i < t.columns.length := by
    rw [← h row hrow]
    exact (List.getElem?_eq_some_iff.mp hx).1
  refine ⟨t.columns[i], List.mk_mem_zipIdx_iff_getElem?.mpr (List.getElem?_eq_getElem hi), ?_⟩
  refine List.mem_cons_of_mem _ (List.mem_map.mpr ⟨row, hrow, ?_⟩)
  rw [hx, Option.getD_some]

theorem body_fits (h : p.Fits width CodePoint.cells t) (hne : t.columns ≠ [])
    (hleft : ∀ c ∈ t.columns, c.align = .left) (divider : String) {row : List Text} (hrow : InColumns t row) :
    p.body width t divider row = [p.rowLine CodePoint.cells divider (p.columnWidths CodePoint.cells t) row] := by
  have hlength : (p.columnWidths CodePoint.cells t).length = t.columns.length := by
    rw [columnWidths, List.length_map, List.length_zipIdx]
  have hshape : (t.columns.map Column.align).zip (p.columnWidths CodePoint.cells t) =
      (p.columnWidths CodePoint.cells t).map (Align.left, ·) := by
    refine List.ext_getElem (by simp [hlength]) fun i hi hi' => ?_
    rw [List.length_map, hlength] at hi'
    simp [hleft _ (List.getElem_mem hi')]
  rw [body, widths_of_fits h, hshape, rowLines_fits]
  · rw [rowLine, List.zip_map_right, List.map_map]
    rfl
  · rw [← List.length_pos_iff, List.length_zip, List.length_map, hlength, hrow.1, Nat.min_self]
    exact List.length_pos_of_ne_nil hne
  · intro q hq
    obtain ⟨i, hi, rfl⟩ := List.getElem_of_mem hq
    rw [List.length_zip, List.length_map, hlength, hrow.1, Nat.min_self] at hi
    have hi' : i < row.length := by rwa [hrow.1]
    obtain ⟨column, hcolumn, hx⟩ := hrow.2 i row[i] (List.getElem?_eq_getElem hi')
    have hone := h.single _ hcolumn _ hx
    have hasked := needed_add_padding_le (List.mem_map_of_mem (f := p.display) hx)
    rw [needed_of_unbroken hone.unbroken] at hasked
    have hwidth : (p.columnWidths CodePoint.cells t)[i] = asked ((t.columnTexts (column, i)).map p.display) := by
      have hget := List.mk_mem_zipIdx_iff_getElem?.mp hcolumn
      have hcolumn : t.columns[i] = column := (List.getElem?_eq_some_iff.mp hget).2
      simp [columnWidths_eq h, displayed, hcolumn]
    rw [List.getElem_zip, List.getElem_map]
    exact ⟨hone, hwidth ▸ hasked⟩

/-- A table that fits stands in its box. -/
theorem lines_fits (h : t.Rectangular) (hne : t.columns ≠ []) (hleft : ∀ c ∈ t.columns, c.align = .left)
    (hfits : (printer lexicon width).Fits width CodePoint.cells t) {ls : List Text}
    (hlines : t.lines lexicon width = .ok ls) :
    ∃ title, ls = title ++ (printer lexicon width).boxed CodePoint.cells t := by
  have hrows : t.rows.flatMap ((printer lexicon width).body width t "│") =
      t.rows.map ((printer lexicon width).rowLine CodePoint.cells "│"
        ((printer lexicon width).columnWidths CodePoint.cells t)) := by
    rw [← List.flatMap_pure_eq_map]
    exact List.flatMap_congr fun row hrow => body_fits hfits hne hleft "│" (row_inColumns h hrow)
  rw [lines_eq_ok h hlines, body_fits hfits hne hleft "┃" (headings_inColumns t), hrows, widths_of_fits hfits]
  refine ⟨titleLines ((printer lexicon width).columnWidths CodePoint.cells t)
    ((printer lexicon width).display t.title), ?_⟩
  simp only [boxed, List.append_assoc, List.cons_append, List.nil_append]

end Printer

/-- The printer of a console keeps the laws, with the cells that code points take there. -/
theorem printer_lawful (lexicon : Lexicon) (width : Nat) : (printer lexicon width).Lawful width CodePoint.cells where
  shows h := by
    have hshown : plainText lexicon _ = .ok _ := shown_of_shows h lexicon [] 0
    simp [printer, hshown, Except.mapError]
  stray h := by
    obtain ⟨f, hf⟩ := plainText_of_stray h lexicon
    exact ⟨f.exception, by simp [printer, hf, Except.mapError]⟩
  fails h := by
    refine (Table.lines_failsOn h lexicon width).mapError.congr fun e => ?_
    constructor
    · rintro ⟨f, ⟨x, hx, hf⟩, rfl⟩
      exact ⟨x, hx, by simp [printer, hf, Except.mapError]⟩
    · rintro ⟨x, hx, he⟩
      cases hshown : plainText lexicon x with
      | ok shown => simp [printer, hshown, Except.mapError] at he
      | error f =>
        refine ⟨f, ⟨x, hx, hshown⟩, ?_⟩
        simpa [printer, hshown, Except.mapError] using he.symm
  encoded h hlines hshown := Printer.hasEncoding_lines h (mapError_eq_ok.mp hlines) hshown
  rows h hne hleft hfits hlines := Printer.lines_fits h hne hleft hfits (mapError_eq_ok.mp hlines)

end ModuleDocs.Console
