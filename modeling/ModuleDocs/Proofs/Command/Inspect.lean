import ModuleDocs.Command.Basic
import ModuleDocs.Proofs.Console.Layout
import ModuleDocs.Proofs.Interface.Exported

/-!
# What is shown of a record

The tables of a record are shown if each of their texts can be: a tag that ends what was not started, or a surrogate,
stops the command. Where a table fits the console, each field of the record has a line in it, in order. What stands on
the line are the shown cells, and a tag that starts a style is missing from them.
-/

namespace ModuleDocs.Command

open Console Console.Printer Source Text

/-! ### Printing a table -/

/-- Why a text of a table cannot be printed. -/
inductive TextFault (p : Printer) (x : Text) : StopReason → Prop where
  | printing {e : Foreign} : p.shown x = .error e → TextFault p x (.printing e)
  | unprintable {shown : Text} {f : EncodeFault} :
      p.shown x = .ok shown → ¬ shown.HasEncoding → TextFault p x (.unprintable f)

section Printing

variable {p : Printer} {width : Nat} {cells : CodePoint → Nat} {t : Table} {ls : List Text}

theorem printed_of_ok (h : p.table t = .ok ls) :
    ((∀ l ∈ ls, HasEncoding l) → printed p t = .ok ls) ∧
      (¬ (∀ l ∈ ls, HasEncoding l) → ∃ f, printed p t = .error (.unprintable f)) := by
  have hlines : HasEncoding (ls.flatMap fun l => l ++ [CodePoint.ofChar '\n']) ↔ ∀ l ∈ ls, HasEncoding l := by
    rw [hasEncoding_flatMap]
    simp [CodePoint.isSurrogate_ofChar]
  unfold printed
  rw [h]
  constructor
  · intro hencoded
    obtain ⟨bytes, hbytes⟩ := (toUtf8_ok_iff _).mpr (hlines.mpr hencoded)
    simp only [Except.mapError, bind, Except.bind, hbytes]
    rfl
  · intro hencoded
    obtain ⟨f, hf⟩ := (toUtf8_error_iff _).mpr (mt hlines.mp hencoded)
    refine ⟨f, ?_⟩
    simp only [Except.mapError, bind, Except.bind, hf]

theorem printed_of_error {e : Foreign} (h : p.table t = .error e) : printed p t = .error (.printing e) := by
  simp only [printed, h, Except.mapError, bind, Except.bind]

theorem printed_eq_ok (h : printed p t = .ok ls) : p.table t = .ok ls ∧ ∀ l ∈ ls, HasEncoding l := by
  cases hlines : p.table t with
  | error e =>
    rw [printed_of_error hlines] at h
    cases h
  | ok ls' =>
    by_cases hencoded : ∀ l ∈ ls', HasEncoding l
    · rw [(printed_of_ok hlines).1 hencoded] at h
      cases h
      exact ⟨rfl, hencoded⟩
    · obtain ⟨f, hf⟩ := (printed_of_ok hlines).2 hencoded
      rw [hf] at h
      cases h

theorem shown_of_table (hp : p.Lawful width cells) (hrect : t.Rectangular) (h : p.table t = .ok ls) {x : Text}
    (hx : x ∈ t.texts) : p.shown x = .ok (p.display x) := by
  cases hshown : p.shown x with
  | ok shown => rw [display, hshown]; rfl
  | error e =>
    obtain ⟨e', he'⟩ := (hp.fails hrect).stopped e ⟨x, hx, hshown⟩
    rw [h] at he'
    cases he'

theorem printed_error (hp : p.Lawful width cells) (hrect : t.Rectangular) {reason : StopReason}
    (h : printed p t = .error reason) : ∃ x ∈ t.texts, TextFault p x reason := by
  cases hlines : p.table t with
  | error e =>
    rw [printed_of_error hlines] at h
    cases h
    obtain ⟨x, hx, he⟩ := (hp.fails hrect).reported e hlines
    exact ⟨x, hx, .printing he⟩
  | ok ls =>
    by_cases hencoded : ∀ l ∈ ls, HasEncoding l
    · rw [(printed_of_ok hlines).1 hencoded] at h
      cases h
    · obtain ⟨f, hf⟩ := (printed_of_ok hlines).2 hencoded
      rw [hf] at h
      cases h
      -- Some line has a surrogate, which some text brings.
      have hshown := mt (hp.encoded hrect hlines) hencoded
      obtain ⟨x, hshown⟩ := not_forall.mp hshown
      obtain ⟨hx, hsurrogate⟩ := Classical.not_imp.mp hshown
      exact ⟨x, hx, .unprintable (shown_of_table hp hrect hlines hx) hsurrogate⟩

/-- A cell of a row that has an encoding has one. -/
theorem hasEncoding_of_rowLine {divider : String} {ws : List Nat} {row : List Text} (hlength : row.length ≤ ws.length)
    (h : HasEncoding (p.rowLine cells divider ws row)) : ∀ x ∈ row, HasEncoding (p.display x) := by
  rw [rowLine, Table.hasEncoding_line, List.forall_mem_map] at h
  intro x hx
  rw [← List.map_snd_zip hlength] at hx
  obtain ⟨q, hq, rfl⟩ := List.mem_map.mp hx
  have hcell := h q hq
  simp only [hasEncoding_append] at hcell
  exact hcell.1.2.1

end Printing

/-! ### Tables of fields -/

/-- A table of fields. -/
structure FieldsShown (p : Printer) (width : Nat) (cells : CodePoint → Nat) (title : Text) (fields : List Field)
    (lines : List Text) : Prop where
  /-- Every text of the fields can be shown. -/
  shown : ∀ f ∈ fields, ∀ x ∈ fieldRow f, p.shown x = .ok (p.display x)
  /-- Where there is room, the fields stand in a box, in order and each on its line. -/
  boxed : p.Fits width cells (fieldTable title fields) →
    ∃ above, lines = above ++ p.boxed cells (fieldTable title fields)
  /-- Tags that start styles are missing, so a text is shown as it is exactly if it has none. -/
  tags : ∀ f ∈ fields, ∀ x ∈ fieldRow f, ∀ u, Shows x u → p.display x = u ∧ (p.display x = x ↔ Literal x)

theorem fieldTable_rectangular (title : Text) (fields : List Field) : (fieldTable title fields).Rectangular :=
  List.forall_mem_map.mpr fun _ _ => rfl

theorem mem_texts_fieldTable {title : Text} {fields : List Field} {f : Field} (hf : f ∈ fields) {x : Text}
    (hx : x ∈ fieldRow f) : x ∈ (fieldTable title fields).texts := by
  refine List.mem_cons_of_mem _ (List.mem_append_right _ (List.mem_flatten.mpr ⟨fieldRow f, ?_, hx⟩))
  exact List.mem_map_of_mem hf

section Fields

variable {p : Printer} {width : Nat} {cells : CodePoint → Nat} {title : Text} {fields : List Field}

theorem boxed_of_fits (hp : p.Lawful width cells) (hfits : p.Fits width cells (fieldTable title fields))
    {ls : List Text} (h : p.table (fieldTable title fields) = .ok ls) :
    ∃ above, ls = above ++ p.boxed cells (fieldTable title fields) := by
  refine hp.rows (fieldTable_rectangular title fields) (List.cons_ne_nil _ _) ?_ hfits h
  simp [fieldTable]

theorem fieldsShown (hp : p.Lawful width cells) {ls : List Text} (h : printed p (fieldTable title fields) = .ok ls) :
    FieldsShown p width cells title fields ls where
  shown f hf x hx :=
    shown_of_table hp (fieldTable_rectangular title fields) (printed_eq_ok h).1 (mem_texts_fieldTable hf hx)
  boxed hfits := boxed_of_fits hp hfits (printed_eq_ok h).1
  tags f _ x _ u hu := by
    have hdisplay : p.display x = u := by
      rw [display, hp.shows hu]
      rfl
    exact ⟨hdisplay, by rw [hdisplay]; exact hu.eq_self_iff⟩

/-- Where there is room, every cell comes to be encoded. -/
theorem hasEncoding_of_printed (hp : p.Lawful width cells) (hfits : p.Fits width cells (fieldTable title fields))
    {ls : List Text} (h : printed p (fieldTable title fields) = .ok ls) {f : Field} (hf : f ∈ fields) :
    ∀ x ∈ fieldRow f, HasEncoding (p.display x) := by
  obtain ⟨htable, hencoded⟩ := printed_eq_ok h
  obtain ⟨above, rfl⟩ := boxed_of_fits hp hfits htable
  have hline : p.rowLine cells "│" (p.columnWidths cells (fieldTable title fields)) (fieldRow f) ∈
      p.boxed cells (fieldTable title fields) :=
    List.mem_append_left _ (List.mem_append_right _ (List.mem_map_of_mem (List.mem_map_of_mem hf)))
  exact hasEncoding_of_rowLine (by simp [columnWidths, fieldRow, fieldTable])
    (hencoded _ (List.mem_append_right _ hline))

end Fields

/-! ### Tables of a record -/

def recordTexts (name : Text) (r : Record) : List Text := (recordTables name r).flatMap Table.texts

/-- A record in tables, and how the command that shows it ends. -/
structure RecordShown (p : Printer) (width : Nat) (cells : CodePoint → Nat) (name : Text) (r : Record) (e : Ending) :
    Prop where
  /-- The command is done, or a text of the tables stops it. -/
  ends : (∃ output, e = .done output) ∨ ∃ reason, e = .stopped reason ∧ ∃ x ∈ recordTexts name r, TextFault p x reason
  /-- A text that cannot be shown stops the command, such as one with a tag that ends nothing. -/
  faults : ∀ x ∈ recordTexts name r, ((∃ f, p.shown x = .error f) ∨ Stray x) → ∃ reason, e = .stopped reason
  /-- A surrogate stops the command, where there is room for it. -/
  surrogates : ∀ title fields, fieldTable title fields ∈ recordTables name r →
    p.Fits width cells (fieldTable title fields) → ∀ f ∈ fields, ∀ x ∈ fieldRow f,
      ¬ HasEncoding (p.display x) → ∃ reason, e = .stopped reason
  /-- Both tables are shown, the types first. -/
  shown : ∀ output, e = .done output → ∃ types values, output = types ++ values ∧
    FieldsShown p width cells (name ++ ": Types") r.types types ∧
    FieldsShown p width cells (name ++ ": Values") r.values values

theorem recordTables_cases {name : Text} {r : Record} {t : Table} (h : t ∈ recordTables name r) :
    ∃ title fields, t = fieldTable title fields := by
  rcases List.mem_cons.mp h with rfl | h
  · exact ⟨_, _, rfl⟩
  · exact ⟨_, _, List.mem_singleton.mp h⟩

theorem recordLines_failsOn (p : Printer) (name : Text) (r : Record) :
    FailsOn (recordLines p name r) fun reason => ∃ t ∈ recordTables name r, printed p t = .error reason :=
  (FailsOn.mapM fun _ _ => ⟨fun _ h => h, fun reason h => ⟨reason, h⟩⟩).map

theorem recordLines_eq_ok {p : Printer} {name : Text} {r : Record} {ls : List Text}
    (h : recordLines p name r = .ok ls) :
    ∃ types values, printed p (fieldTable (name ++ ": Types") r.types) = .ok types ∧
      printed p (fieldTable (name ++ ": Values") r.values) = .ok values ∧ ls = types ++ values := by
  cases hblocks : (recordTables name r).mapM (printed p) with
  | error reason =>
    rw [recordLines, hblocks] at h
    cases h
  | ok blocks =>
    rw [recordLines, hblocks] at h
    cases h
    rw [recordTables, List.mapM_cons, List.mapM_cons, List.mapM_nil] at hblocks
    obtain ⟨types, htypes, hblocks⟩ := bind_eq_ok.mp hblocks
    obtain ⟨rest, hrest, hblocks⟩ := bind_eq_ok.mp hblocks
    obtain ⟨values, hvalues, hrest⟩ := bind_eq_ok.mp hrest
    cases hrest
    cases hblocks
    exact ⟨types, values, htypes, hvalues, by simp⟩

/-- A table that is not printed stops the command. -/
theorem stopped_of_printed {p : Printer} {name : Text} {r : Record} {t : Table} (ht : t ∈ recordTables name r)
    (h : ∀ ls, printed p t ≠ .ok ls) : ∃ reason, ending (recordLines p name r) = .stopped reason := by
  cases hprinted : printed p t with
  | ok ls => exact absurd hprinted (h ls)
  | error reason =>
    obtain ⟨reason', hlines⟩ := (recordLines_failsOn p name r).stopped reason ⟨t, ht, hprinted⟩
    exact ⟨reason', by rw [hlines]; rfl⟩

theorem recordShown {p : Printer} {width : Nat} {cells : CodePoint → Nat} (hp : p.Lawful width cells) (name : Text)
    (r : Record) : RecordShown p width cells name r (ending (recordLines p name r)) where
  ends := by
    cases hlines : recordLines p name r with
    | ok output => exact Or.inl ⟨output, rfl⟩
    | error reason =>
      obtain ⟨t, ht, hprinted⟩ := (recordLines_failsOn p name r).reported reason hlines
      obtain ⟨title, fields, rfl⟩ := recordTables_cases ht
      obtain ⟨x, hx, hfault⟩ := printed_error hp (fieldTable_rectangular title fields) hprinted
      exact Or.inr ⟨reason, rfl, x, List.mem_flatMap.mpr ⟨_, ht, hx⟩, hfault⟩
  faults := by
    intro x hx hfault
    obtain ⟨f, hf⟩ : ∃ f, p.shown x = .error f := hfault.elim id hp.stray
    obtain ⟨t, ht, hx⟩ := List.mem_flatMap.mp hx
    obtain ⟨title, fields, rfl⟩ := recordTables_cases ht
    refine stopped_of_printed ht fun ls hls => ?_
    have hshown := shown_of_table hp (fieldTable_rectangular title fields) (printed_eq_ok hls).1 hx
    rw [hf] at hshown
    cases hshown
  surrogates := by
    intro title fields ht hfits f hfield x hx hsurrogate
    exact stopped_of_printed ht fun ls hls => hsurrogate (hasEncoding_of_printed hp hfits hls hfield x hx)
  shown := by
    intro output hdone
    cases hlines : recordLines p name r with
    | error reason =>
      rw [hlines] at hdone
      cases hdone
    | ok ls =>
      rw [hlines] at hdone
      cases hdone
      obtain ⟨types, values, htypes, hvalues, rfl⟩ := recordLines_eq_ok hlines
      exact ⟨types, values, rfl, fieldsShown hp htypes, fieldsShown hp hvalues⟩

def subscriptTree : Disk := ⟨.dir [(ofString "m.py", .file [0x78, 0x3A, 0x61, 0x5B, 0x62, 0x5D])], [], {}⟩

def subscriptField : Field := ⟨ofString "x", ofString "a[b]", []⟩

/-- The printer of a console of eighty columns. -/
def narrowPrinter : Printer := printer .empty 80

def bareCall : Call := ⟨[], [], .standard, narrowPrinter⟩

def noOptions : Given := ⟨none, none, none, false, none, false⟩

theorem settings_bare : settings bareCall subscriptTree noOptions = .ok Settings.standard := by
  have hvars : variableText subscriptTree = .ok [] := by cbv
  have hload : Settings.load .standard ⟨noOptions.values, bareCall.environment, []⟩ = .ok Settings.standard := by cbv
  unfold settings
  rw [hvars]
  exact congrArg (Except.mapError StopReason.settings) hload

theorem parse_subscript :
    parseModule "x:a[b]".toList = .ok [.annotated (.name "x") (.subscript (.name "a") (.name "b")) none] :=
  ok_of_toOption (by decide +kernel)

theorem extract_subscript :
    (extract subscriptTree (checker Settings.standard) (Path.ofText "m.py") (Path.ofText "m.py").stem).result =
      .ok (⟨[], [⟨ofString "x", ofString "a[b]", ofString "a[b]"⟩]⟩, .mk none [(ofString "x", .mk none [])]) := by
  have hsource : readSource subscriptTree (Path.ofText "m.py") = .ok (ofString "x:a[b]") := by cbv
  have hparses : Parses "x:a[b]" [.annotated (.name "x") (.subscript (.name "a") (.name "b")) none] :=
    ⟨"x:a[b]".toList, Text.toChars?_map_ofChar _, parse_subscript⟩
  rw [extract, hsource, checker]
  dsimp only
  rw [Checker.python_check_of_parses hparses]
  cbv

theorem subscript_faultless :
    ∀ x ∈ recordTexts "m" ⟨[], [subscriptField]⟩, ∀ reason, ¬ TextFault narrowPrinter x reason := by
  have hlegible : ∀ x ∈ recordTexts "m" ⟨[], [subscriptField]⟩,
      (narrowPrinter.shown x).toOption.any fun shown => shown.all fun c => !c.isSurrogate := by decide +kernel
  intro x hx reason hfault
  have hlegible := hlegible x hx
  cases hfault with
  | printing he =>
    rw [he] at hlegible
    cases hlegible
  | unprintable hok hsurrogate =>
    rw [hok] at hlegible
    refine hsurrogate fun c hc => ?_
    simpa using List.all_eq_true.mp hlegible c hc

theorem subscript_fits : narrowPrinter.Fits 80 CodePoint.cells (fieldTable "m: Values" [subscriptField]) where
  room := by decide +kernel
  single := by
    have hall : ∀ column ∈ (fieldTable "m: Values" [subscriptField]).columns.zipIdx,
        ∀ x ∈ (fieldTable "m: Values" [subscriptField]).columnTexts column,
          ((narrowPrinter.display x).all fun c => !c.endsLine && c != CodePoint.ofChar '\t') = true ∧
            (narrowPrinter.display x).stripRight = narrowPrinter.display x := by decide +kernel
    intro column hcolumn x hx
    obtain ⟨hplain, hended⟩ := hall column hcolumn x hx
    simp only [List.all_eq_true, Bool.and_eq_true, Bool.not_eq_true', bne_iff_ne] at hplain
    exact ⟨fun c hc => (hplain c hc).1, fun htab => (hplain _ htab).2 rfl, Or.inr hended⟩

end ModuleDocs.Command
