import ModuleDocs.Proofs.Run.Document
import ModuleDocs.Proofs.Storage.LinkFree

/-!
# Runs stop at the first failure

A run writes the pages of the files it comes to, one after the other. When it stops, the pages of the earlier files
are there, the checker was asked about these files and at most one more, and no other file has been touched. A
page gives way only to the page of a later file with the same path, which pages with a suffix do not have.
-/

namespace ModuleDocs

open ModuleDocs.Path (isName)

namespace RunPlan

/-! ### Files below the input directory -/

/-- A file that a walk of the input directory can come to. -/
def IsInput (plan : RunPlan) (file : Path) : Prop :=
  ∃ dirs name, (∀ x ∈ dirs, isName x = true) ∧ isName name = true ∧ file = plan.input.below (dirs ++ [name])

theorem isInput_of_below {plan : RunPlan} {file : Path} {rel : List Text} (hrel : rel ≠ [])
    (hnames : ∀ x ∈ rel, isName x = true) (hfile : file = plan.input.below rel) : plan.IsInput file := by
  rcases List.eq_nil_or_concat rel with he | ⟨dirs, name, he⟩
  · exact absurd he hrel
  · rw [List.concat_eq_append] at he
    subst he
    exact ⟨dirs, name, fun x hx => hnames x (List.mem_append_left _ hx),
      hnames name (List.mem_append_right _ (List.mem_singleton_self name)), hfile⟩

/-- Below an output directory without links, pages at one place have one path. -/
theorem pageAt_target_unique {plan : RunPlan} (hout : plan.output.Plain) {d : Disk} (hfree : d.LinkFree plan.output)
    {f g : Path} (hf : plan.IsInput f) (hg : plan.IsInput g) {place : List Text} (hfp : plan.PageAt d f place)
    (hgp : plan.PageAt d g place) : plan.target f = plan.target g := by
  obtain ⟨dirs, name, hdirs, hname, rfl⟩ := hf
  obtain ⟨dirs', name', hdirs', hname', rfl⟩ := hg
  obtain ⟨t, c, ht, hloc⟩ := hfp
  obtain ⟨t', c', ht', hloc'⟩ := hgp
  unfold target
  rw [ht, ht']
  rw [relative_below] at ht ht'
  obtain ⟨rel, rfl, hrel⟩ := page_names hout hdirs hname ht hloc
  obtain ⟨rel', rfl, hrel'⟩ := page_names hout hdirs' hname' ht' hloc'
  rw [hfree.below_inj hrel hrel' hloc hloc']

/-- Two files have different pages, unless pages have no suffix. -/
theorem target_inj {plan : RunPlan} (hsuffix : plan.pageSuffix ≠ []) {f g : Path} (hf : plan.IsInput f)
    (hg : plan.IsInput g) (hsame : f.suffix = g.suffix) {t : Path} (hft : plan.target f = .ok t)
    (hgt : plan.target g = .ok t) : f = g := by
  obtain ⟨dirs, name, hdirs, hname, rfl⟩ := hf
  obtain ⟨dirs', name', hdirs', hname', rfl⟩ := hg
  rw [Path.below_snoc_suffix, Path.below_snoc_suffix] at hsame
  rw [target, relative_below] at hft hgt
  rw [pagePath_inj hdirs hdirs' (Path.isName_ne_nil hname) (Path.isName_ne_nil hname') hsuffix hsame hft hgt]

/-! ### Runs from a state -/

/-- The disk when a run from a state comes to the file with a number. -/
def diskAt (plan : RunPlan) (p : Progress) (files : List Path) (i : Nat) : Disk :=
  (Walk.actAll plan.documentBound (files.take i) p).state.disk

theorem diskAt_succ {plan : RunPlan} {p p' : Progress} {file : Path} (h : plan.documentBound file p = .next p')
    (files : List Path) (i : Nat) : plan.diskAt p (file :: files) (i + 1) = plan.diskAt p' files i := by
  unfold diskAt
  rw [List.take_succ_cons, Walk.actAll, h]
  rfl

/-- What a run through some files has done when the pages of the first `k` of them are written: `written` and
`asked` are what it has added, `final` is the disk where it ends. -/
structure FailFast (plan : RunPlan) (p : Progress) (files : List Path) (halt : Option Halt) (final : Disk)
    (written : List Path) (asked : List (Text × Text)) (k : Nat) : Prop where
  /-- The run has come to the end of the files, or it stops on the next one, which is the last it comes to. -/
  progress : k = files.length ∨ k + 1 = files.length ∧ halt ≠ none
  written_length : written.length = k
  /-- The pages are rendered from the files as they were found, and they stay unless a later file has the same
  target. -/
  page : ∀ i file, i < k → files[i]? = some file → ∃ target bytes,
    plan.pageOf (plan.diskAt p files i) file = some (target, bytes) ∧ written[i]? = some target ∧
      ((∀ g ∈ files.drop (i + 1), plan.target g ≠ .ok target) → final.node true target = .ok (.file bytes))
  /-- One question is asked about each of these files. -/
  question : ∀ i file, i < k → files[i]? = some file → ∃ q,
    plan.question? (plan.diskAt p files i) file = some q ∧ asked[i]? = some q
  /-- At most one more is asked, about the next file. -/
  lastQuestion : asked.drop k = (files[k]?.bind (plan.question? (plan.diskAt p files k))).toList
  grows : p.disk.Extends final
  /-- Only pages are written, that of the next file only if it could be rendered. -/
  frame : p.disk.KeepsFiles final fun place =>
    (∃ file ∈ files.take k, plan.PageAt final file place) ∨
      ∃ file text, files[k]? = some file ∧ plan.rendered (plan.diskAt p files k) file = .ok text ∧
        plan.PageAt final file place

theorem failFast_done (plan : RunPlan) (p : Progress) (halt : Option Halt) :
    FailFast plan p [] halt p.disk [] [] 0 where
  progress := Or.inl rfl
  written_length := rfl
  page _ _ hi _ := absurd hi (Nat.not_lt_zero _)
  question _ _ hi _ := absurd hi (Nat.not_lt_zero _)
  lastQuestion := rfl
  grows := .refl _
  frame := .refl _ _

theorem failFast_failed {plan : RunPlan} {file : Path} {p p' : Progress} {h : Halt}
    (ho : plan.documentBound file p = ⟨p', some h⟩) :
    p'.written = p.written ∧ p'.asked = p.asked ++ (plan.question? p.disk file).toList ∧
      FailFast plan p [file] (some h) p'.disk [] (plan.question? p.disk file).toList 0 := by
  have hdoc := documentBound_documented plan file p
  rw [ho] at hdoc
  have hlast : p'.written = p.written ∧ p'.asked = p.asked ++ (plan.question? p.disk file).toList := by
    cases hdoc with
    | unrendered _ _ hwritten hasked => exact ⟨hwritten, hasked⟩
    | unwritten _ _ hwritten hasked => exact ⟨hwritten, hasked⟩
  refine ⟨hlast.1, hlast.2, ?_⟩
  exact {
    progress := Or.inr ⟨rfl, Option.some_ne_none h⟩
    written_length := rfl
    page := fun _ _ hi _ => absurd hi (Nat.not_lt_zero _)
    question := fun _ _ hi _ => absurd hi (Nat.not_lt_zero _)
    lastQuestion := rfl
    grows := hdoc.extends
    frame := hdoc.keepsFiles.mono fun place hplace => by
      obtain ⟨⟨text, hrendered⟩, hat⟩ := hplace
      exact Or.inr ⟨file, text, rfl, hrendered, hat⟩ }

/-- A page stays where the later pages have other paths. -/
theorem FailFast.page_stays {plan : RunPlan} {p : Progress} {files : List Path} {halt : Option Halt} {final : Disk}
    {written : List Path} {asked : List (Text × Text)} {k : Nat}
    (h : FailFast plan p files halt final written asked k) (hout : plan.output.Plain)
    (hfree : final.LinkFree plan.output) (hfiles : ∀ g ∈ files, plan.IsInput g) {file target : Path}
    (hfile : plan.IsInput file) (htarget : plan.target file = .ok target) {place : List Text} {bytes : List UInt8}
    (hloc : p.disk.locate true target = .ok (.found place (.file bytes)))
    (hothers : ∀ g ∈ files, plan.target g ≠ .ok target) : final.node true target = .ok (.file bytes) := by
  have hkept : plan.PageAt final file place := PagePlace.extends h.grows ⟨target, bytes, htarget, hloc⟩
  have hno : ∀ g ∈ files, ¬ plan.PageAt final g place := by
    intro g hg hat
    have hsame := pageAt_target_unique hout hfree hfile (hfiles g hg) hkept hat
    exact hothers g hg (hsame ▸ htarget)
  have hframe : final.at? place = some (.file bytes) ↔ p.disk.at? place = some (.file bytes) := by
    refine h.frame place bytes ?_
    rintro (⟨g, hg, hat⟩ | ⟨g, text, hg, _, hat⟩)
    · exact hno g (List.mem_of_mem_take hg) hat
    · exact hno g (List.mem_of_getElem? hg) hat
  have hat := hframe.mpr (Node.at?_eq_file.mpr (Disk.locate_holds hloc))
  rw [Disk.node, h.grows.locate_found hloc (Node.at?_eq_file.mp hat)]

theorem failFast_step {plan : RunPlan} (hout : plan.output.Plain) {file : Path} {p p' : Progress}
    (ho : plan.documentBound file p = .next p') (hfree : p.disk.StaysLinkFree plan.output)
    (hfile : plan.IsInput file) {files : List Path} (hfiles : ∀ g ∈ files, plan.IsInput g) {halt : Option Halt}
    {final : Disk} {written : List Path} {asked : List (Text × Text)} {k : Nat}
    (h : FailFast plan p' files halt final written asked k) :
    ∃ target q, p'.written = p.written ++ [target] ∧ p'.asked = p.asked ++ [q] ∧
      FailFast plan p (file :: files) halt final (target :: written) (q :: asked) (k + 1) := by
  have hdoc := documentBound_documented plan file p
  rw [ho] at hdoc
  have hgrows : p.disk.Extends final := hdoc.extends.trans h.grows
  have hframe := hdoc.keepsFiles
  cases hdoc with
  | @written _ text target hrendered hwrite hwritten hasked =>
    obtain ⟨bytes, place, hpage, htarget, hloc⟩ := pageOf_of_written hrendered hwrite
    obtain ⟨q, hq⟩ := question?_of_rendered hrendered
    rw [hq] at hasked
    refine ⟨target, q, hwritten, hasked, ?_, ?_, ?_, ?_, ?_, hgrows, ?_⟩
    · rcases h.progress with hk | ⟨hk, hhalt⟩
      · exact Or.inl (by rw [hk, List.length_cons])
      · exact Or.inr ⟨by rw [hk, List.length_cons], hhalt⟩
    · rw [List.length_cons, h.written_length]
    · intro i g hi hg
      cases i with
      | zero =>
        cases hg
        refine ⟨target, bytes, hpage, rfl, fun hothers => ?_⟩
        exact h.page_stays hout (hfree final hgrows) hfiles hfile htarget hloc hothers
      | succ i =>
        rw [diskAt_succ ho]
        exact h.page i g (Nat.lt_of_succ_lt_succ hi) hg
    · intro i g hi hg
      cases i with
      | zero =>
        cases hg
        exact ⟨q, hq, rfl⟩
      | succ i =>
        rw [diskAt_succ ho]
        exact h.question i g (Nat.lt_of_succ_lt_succ hi) hg
    · rw [List.drop_succ_cons, h.lastQuestion, diskAt_succ ho]
      rfl
    · have hmine : p.disk.KeepsFiles p'.disk fun place => plan.PageAt final file place :=
        hframe.mono fun place hplace => PagePlace.extends h.grows hplace.2
      refine (hmine.mono fun place hat => ?_).trans (h.frame.mono fun place hat => ?_)
      · exact Or.inl ⟨file, by rw [List.take_succ_cons]; exact List.mem_cons_self .., hat⟩
      · rcases hat with ⟨g, hg, hat⟩ | ⟨g, text', hg, hr, hat⟩
        · exact Or.inl ⟨g, by rw [List.take_succ_cons]; exact List.mem_cons_of_mem _ hg, hat⟩
        · refine Or.inr ⟨g, text', hg, ?_, hat⟩
          rw [diskAt_succ ho]
          exact hr

/-- A run through the files of a trail. -/
theorem trail_failFast {plan : RunPlan} (hout : plan.output.Plain) {rules : WalkRules} {p : Progress}
    {files : List Path} {o : Outcome Progress}
    (h : Walk.Trail rules Progress.disk plan.documentBound p files o) (hfiles : ∀ f ∈ files, plan.IsInput f)
    (hfree : p.disk.StaysLinkFree plan.output) :
    ∃ written asked k, o.state.written = p.written ++ written ∧ o.state.asked = p.asked ++ asked ∧
      FailFast plan p files o.halt o.state.disk written asked k := by
  induction h with
  | done p halt => exact ⟨[], [], 0, by simp, by simp, failFast_done plan p halt⟩
  | failed _ ho =>
    obtain ⟨hwritten, hasked, hff⟩ := failFast_failed ho
    exact ⟨[], _, 0, by simp [hwritten], hasked, hff⟩
  | @step file files p p' o _ ho _ ih =>
    have hdoc := documentBound_documented plan file p
    rw [ho] at hdoc
    obtain ⟨written, asked, k, hwritten, hasked, hff⟩ :=
      ih (fun f hf => hfiles f (List.mem_cons_of_mem _ hf)) (hfree.extends hdoc.extends)
    obtain ⟨target, q, hwritten', hasked', hff'⟩ := failFast_step hout ho hfree (hfiles file (List.mem_cons_self ..))
      (fun f hf => hfiles f (List.mem_cons_of_mem _ hf)) hff
    refine ⟨target :: written, q :: asked, k + 1, ?_, ?_, hff'⟩
    · rw [hwritten, hwritten', List.append_assoc, List.singleton_append]
    · rw [hasked, hasked', List.append_assoc, List.singleton_append]

/-! ### Whole runs -/

/-- The files that a run comes to, in order. -/
def reached (plan : RunPlan) (disk : Disk) (log : Log) : List Path :=
  Walk.reached plan.rules Progress.disk plan.documentBound plan.input (plan.start disk log)

/-- A run stops at the first failure. Let the output directory have no links below it. Then the pages of the first
`k` files that the run comes to are written, in order, where `k` is the number of all these files if the run is
not stopped; they hold what was rendered from the files, except that a page gives way to that of a later file with
the same path; the checker was asked once about each of these files and at most once more, about the next file;
and nothing else is touched but the page of the next file, if it was rendered. Pages that have a suffix have
different paths. -/
theorem run_failFast (plan : RunPlan) {disk : Disk} (log : Log) (hd : disk.WellFormed) (hout : plan.output.Plain)
    (hlinks : disk.StaysLinkFree plan.output) :
    (∃ k, FailFast plan (plan.start disk log) (plan.reached disk log) (plan.run disk log).halt
      (plan.run disk log).state.disk (plan.run disk log).state.written (plan.run disk log).state.asked k) ∧
    ((plan.reached disk log).Pairwise fun f g => f.parts < g.parts) ∧
    (plan.pageSuffix ≠ [] → (plan.reached disk log).Pairwise fun f g => ∀ t, plan.target f = .ok t →
      plan.target g ≠ .ok t) := by
  obtain ⟨htrail, hord⟩ :
      Walk.Trail plan.rules Progress.disk plan.documentBound (plan.start disk log) (plan.reached disk log) _ ∧ _ :=
    Walk.visit_trail (documentBound_keeps hout) (plan.start disk log) hd
  have hinputs : ∀ f ∈ plan.reached disk log, plan.IsInput f := by
    intro f hf
    obtain ⟨rel, hrel, hnames, he⟩ := hord.below f hf
    exact isInput_of_below hrel hnames he
  refine ⟨?_, hord.sorted, fun hsuffix => ?_⟩
  · obtain ⟨written, asked, k, hwritten, hasked, hff⟩ := trail_failFast hout htrail hinputs hlinks
    rw [run_eq]
    obtain ⟨hhalt, hdisk, hw, ha⟩ := andThen_finish
      (Walk.visit plan.rules Progress.disk plan.documentBound plan.input (plan.start disk log))
    rw [hhalt, hdisk, hw, ha, hwritten, hasked]
    exact ⟨k, hff⟩
  · refine hord.sorted.imp_of_mem fun {f g} hf hg hlt t hft hgt => ?_
    have hsame : f.suffix = g.suffix := (htrail.suffix f hf).trans (htrail.suffix g hg).symm
    rw [target_inj hsuffix (hinputs f hf) (hinputs g hg) hsame hft hgt] at hlt
    exact lt_irrefl _ hlt

/-- Two source files whose pages have one path if pages have no suffix. -/
def twinTree : Disk :=
  ⟨.dir [("in", .dir [("d", .dir [("..py", .file [])]), ("d.py", .file [])]), ("out", .dir [])], [], {}⟩

/-- A plan for pages without suffix. -/
def barePlan : RunPlan :=
  ⟨Path.ofText "in", Path.ofText "out", ⟨".py", []⟩, [], ⟨fun _ _ => .ok (.empty, .mk none [])⟩, Renderer.standard⟩

theorem run_failFast_twins :
    twinTree.WellFormed ∧ barePlan.output.Plain ∧ twinTree.StaysLinkFree barePlan.output ∧
    barePlan.target (Path.ofText "in/d/..py") = .ok (Path.ofText "out/d") ∧
    barePlan.target (Path.ofText "in/d.py") = .ok (Path.ofText "out/d") ∧
    ∃ k, FailFast barePlan (barePlan.start twinTree .unconfigured) (barePlan.reached twinTree .unconfigured)
      (barePlan.run twinTree .unconfigured).halt (barePlan.run twinTree .unconfigured).state.disk
      (barePlan.run twinTree .unconfigured).state.written (barePlan.run twinTree .unconfigured).state.asked k := by
  have hd : twinTree.WellFormed := by
    refine .dir (by decide) (by decide) fun e he => ?_
    rcases List.mem_cons.mp he with rfl | he
    · refine .dir (by decide) (by decide) fun e he => ?_
      rcases List.mem_cons.mp he with rfl | he
      · refine .dir (by decide) (by decide) fun e he => ?_
        rw [List.mem_singleton.mp he]
        exact .file []
      · rw [List.mem_singleton.mp he]
        exact .file []
    · rw [List.mem_singleton.mp he]
      exact .dir_nil
  have hlinks : twinTree.StaysLinkFree barePlan.output := by
    have hloc : twinTree.locate true barePlan.output = .ok (.found ["out"] (.dir [])) :=
      Disk.locate_eq_ok.mpr ⟨by decide, .down ⟨rfl, rfl⟩ (by decide) (by decide) rfl (.here rfl)⟩
    refine Disk.staysLinkFree_of_locate hloc fun rest t hlink => ?_
    cases rest with
    | nil => cases hlink
    | cons x rest => cases hlink
  have hout : barePlan.output.Plain := Path.plain_ofText _
  exact ⟨hd, hout, hlinks, by decide, by decide, (run_failFast barePlan .unconfigured hd hout hlinks).1⟩

end RunPlan

end ModuleDocs
