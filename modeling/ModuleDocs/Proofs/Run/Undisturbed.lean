import ModuleDocs.Proofs.Run.Document
import ModuleDocs.Proofs.Walk.Replay

/-!
# Runs are not disturbed by their own pages

The output directory may lie inside the input directory, so that a run comes across pages and directories that it has
made. As long as no page has the suffix of source files, it does what it would do if the whole walk were made
first: the same files, read as they were at the start, the same pages and the same end. There is one exception,
something that the run has made below the input directory at a path that is too long.
-/

namespace ModuleDocs

open ModuleDocs.Path (isName)
open Walk

namespace RunPlan

/-- A run that makes the whole walk first, on the files as they are at the start, and then documents what it has
found, one file after the other. -/
def runListed (plan : RunPlan) (disk : Disk) (log : Log) : Outcome Progress :=
  (replay plan.documentBound (files plan.rules disk plan.input) (plan.start disk log)).andThen finish

/-- Directories that a run makes below the input directory can be listed. -/
def ListsNew (plan : RunPlan) (disk final : Disk) : Prop :=
  ∀ place n rel, disk.locate true plan.input = .ok (.found place n) → final.at? (place ++ rel) = some .dir →
    disk.at? (place ++ rel) = none → disk.locked.contains (plan.input.below rel).text = false

/-- What is asked of the states of a run: no page has the suffix of sources, and new directories can be listed. -/
def Harmless (plan : RunPlan) (disk : Disk) (p : Progress) : Prop :=
  (∀ t ∈ p.written, t.suffix ≠ plan.rules.suffix) ∧ plan.ListsNew disk p.disk

variable {plan : RunPlan} {disk : Disk}

theorem Documented.written_subset {file : Path} {p : Progress} {o : Outcome Progress}
    (h : Documented plan file p o) : ∀ t ∈ p.written, t ∈ o.state.written := by
  intro t ht
  cases h with
  | unrendered _ _ hwritten _ => exact hwritten ▸ ht
  | unwritten _ _ hwritten _ => exact hwritten ▸ ht
  | @written p' _ target _ _ hwritten _ =>
    show t ∈ p'.written
    rw [hwritten]
    exact List.mem_append_left _ ht

theorem harmless_reflects (file : Path) (p : Progress)
    (h : plan.Harmless disk (plan.documentBound file p).state) : plan.Harmless disk p := by
  have hdoc := documentBound_documented plan file p
  refine ⟨fun t ht => h.1 t (hdoc.written_subset t ht), fun place n rel hloc hdir hnew => ?_⟩
  exact h.2 place n rel hloc (hdoc.extends.dir _ hdir) hnew

/-- Where the page of a file stands, no source file can be, if the page has not the suffix of sources. -/
theorem notSource_of_pageAt {d : Disk} (hfree : ∀ q t, d.at? q ≠ some (.link t)) {file target : Path}
    (htarget : plan.target file = .ok target) (hsuffix : target.suffix ≠ plan.rules.suffix) {place : List Text}
    (h : plan.PageAt d file place) : NotSource plan.rules place := by
  obtain ⟨t, c, ht, hloc⟩ := h
  have hsame : t = target := Except.ok.inj (ht.symm.trans htarget)
  subst hsame
  obtain ⟨_, hlead⟩ := Disk.locate_eq_ok.mp hloc
  intro name hname hsuf
  by_cases hparts : t.parts = []
  · rw [hparts] at hlead
    cases hlead with
    | here => cases hname
  · have hlast := hlead.file_name hfree hparts
    have heq : t.suffix = (Path.splitSuffix name).2 := by
      rw [Path.suffix, Path.name, ← hlast, hname]
      rfl
    exact hsuffix (heq.trans hsuf)

theorem target_mem_written {file : Path} {p p' : Progress} (ho : plan.documentBound file p = .next p') {target : Path}
    (htarget : plan.target file = .ok target) : target ∈ p'.written := by
  have hdoc := documentBound_documented plan file p
  rw [ho] at hdoc
  cases hdoc with
  | written hrendered hwrite hwritten _ =>
    obtain ⟨_, _, _, hsame, _⟩ := pageOf_of_written hrendered hwrite
    rw [htarget] at hsame
    cases hsame
    rw [hwritten]
    exact List.mem_append_right _ (List.mem_singleton_self target)

/-- The source files stay as they are when a page is written that has not their suffix. -/
theorem grown_next (hout : plan.output.Plain) {rel : List Text} (hrel : ∀ x ∈ rel, isName x = true) {p p' : Progress}
    (hp : Grown plan.rules disk p.disk) (ho : plan.documentBound (plan.input.below rel) p = .next p')
    (hsuffix : ∀ target, plan.target (plan.input.below rel) = .ok target → target.suffix ≠ plan.rules.suffix) :
    Grown plan.rules disk p'.disk := by
  have hdoc := documentBound_documented plan (plan.input.below rel) p
  rw [ho] at hdoc
  have hwf := documentBound_wellFormed hout hrel hp.wellFormed
  rw [ho] at hwf
  have hgrows : p.disk.Extends p'.disk := hdoc.extends
  have hfree : ∀ q t, p'.disk.at? q ≠ some (.link t) := fun q t h => hp.linkFree q t ((hgrows.link q t).mp h)
  have hkeeps := hdoc.keepsFiles
  refine ⟨hwf, hp.grows.trans hgrows, hp.sources.trans (hkeeps.mono fun place hplace => ?_), hfree⟩
  cases hdoc with
  | written hrendered hwrite _ _ =>
    obtain ⟨_, _, _, htarget, _⟩ := pageOf_of_written hrendered hwrite
    exact notSource_of_pageAt hfree htarget (hsuffix _ htarget) hplace.2

/-- A run keeps the source files, as long as its states are harmless. -/
theorem documentBound_steady (hd : disk.WellFormed) (hout : plan.output.Plain) {place : List Text}
    {es : List (Text × Node)} (hroot : disk.locate true plan.input = .ok (.found place (.dir es))) :
    Steady plan.rules Progress.disk plan.documentBound plan.input place disk (plan.Harmless disk) where
  wellFormed := hd
  grows file p := (documentBound_documented plan file p).extends
  reflects := harmless_reflects
  listable _ hp rel := hp.2 place _ rel hroot
  keeps _ hrel _ _ hp ho hP :=
    grown_next hout hrel hp ho fun target htarget => hP.1 target (target_mem_written ho htarget)

/-- A walk that comes to a file could look at everything on the way down to it. -/
theorem clear_above {place rel : List Text} {n : Node} (hadm : Admissible plan.rules disk place rel n)
    (hbefore : ∀ rel' h, StopsAt plan.rules disk plan.input place rel' h → rel < rel') {above after : List Text}
    {name : Text} (hrel : rel = above ++ name :: after) :
    disk.entryFault? (plan.input.below above) (place ++ above) name = none := by
  have hsplit : rel = (above ++ [name]) ++ after := by simp [hrel]
  cases hfault : disk.entryFault? (plan.input.below above) (place ++ above) name with
  | none => rfl
  | some f =>
    obtain ⟨m, hm⟩ : ∃ m, disk.root.get? (place ++ (above ++ [name])) = some m := by
      have hentry := hadm.entry
      rw [hsplit, ← List.append_assoc, Node.get?_append] at hentry
      exact Option.bind_eq_some_iff.mp hentry |>.imp fun _ h => h.1
    have hskips : ∀ x ∈ above ++ [name], plan.rules.skips x = false :=
      fun x hx => hadm.unskipped x (hsplit ▸ List.mem_append_left _ hx)
    have hlt := hbefore _ _ (.barred hm hskips (barred_snoc.mpr hfault))
    rw [hsplit] at hlt
    exact absurd hlt (not_lt.mpr (le_append _ after))

theorem locate_source {place rel : List Text} {es : List (Text × Node)} {c : List UInt8} (hd : disk.WellFormed)
    (hroot : disk.locate true plan.input = .ok (.found place (.dir es)))
    (hadm : Admissible plan.rules disk place rel (.file c))
    (hbefore : ∀ rel' h, StopsAt plan.rules disk plan.input place rel' h → rel < rel') :
    disk.locate true (plan.input.below rel) = .ok (.found (place ++ rel) (.file c)) := by
  have hclear := fun {above after : List Text} {name : Text} (h : rel = above ++ name :: after) =>
    Disk.entryFault?_eq_none.mp (clear_above hadm hbefore h)
  have hnames : ∀ x ∈ rel, isName x = true := fun x hx => (hd.get? hadm.entry).2 x (List.mem_append_right _ hx)
  refine Disk.locate_below hroot hadm.entry (fun t ht => by cases ht) hnames (fun x hx => ?_)
    (fun above name after h => (hclear h).2.1) ?_
  · obtain ⟨above, after, h⟩ := List.append_of_mem hx
    exact (hclear h).2.2
  · rcases List.eq_nil_or_concat rel with rfl | ⟨above, name, h⟩
    · rw [Path.below_nil]
      exact (Disk.locate_eq_ok.mp hroot).1
    · rw [List.concat_eq_append] at h
      have hpath := (hclear h).1
      rw [Path.below_child] at hpath
      rw [h]
      exact hpath

/-- A source file found at the start is read as it was, as long as the source files are kept. -/
theorem read_source {d : Disk} (hd : disk.WellFormed) (hgrown : Grown plan.rules disk d)
    (hname : plan.input.text.nameFault? = none) {place : List Text} {es : List (Text × Node)}
    (hroot : disk.locate true plan.input = .ok (.found place (.dir es))) {file : Path}
    (hfile : file ∈ (files plan.rules disk plan.input).state) : d.read file = disk.read file := by
  have hsurvey : Surveys plan.rules disk plan.input place (fun _ => True) (files plan.rules disk plan.input) :=
    files_surveys hd hname hroot
  obtain ⟨rel, rfl, _, ⟨c, hadm, hsuf⟩, hbefore⟩ := (hsurvey.mem file).mp hfile
  have hloc := locate_source hd hroot hadm fun rel' h => hbefore rel' h trivial
  have hkept : d.at? (place ++ rel) = some (.file c) := by
    refine (hgrown.sources (place ++ rel) c fun hno => ?_).mpr (Node.at?_eq_file.mpr hadm.entry)
    rcases List.eq_nil_or_concat rel with he | ⟨dirs, name, he⟩
    · -- The input directory itself is no file.
      have hentry := hadm.entry
      rw [he, List.append_nil, Disk.locate_holds hroot] at hentry
      cases hentry
    · rw [List.concat_eq_append] at he
      rw [he, Path.below_snoc_suffix] at hsuf
      refine hno name ?_ hsuf
      rw [he, ← List.append_assoc, List.getLast?_concat]
  have hloc' := hgrown.grows.locate_found hloc (Node.at?_eq_file.mp hkept)
  simp only [Disk.read, hloc, hloc', Spot.place, hgrown.grows.allows]

/-- The files that are acted on in harmless states are read as they were at the start. -/
theorem read_sources (hd : disk.WellFormed) (hfree : ∀ q t, disk.at? q ≠ some (.link t)) (hout : plan.output.Plain)
    (hname : plan.input.text.nameFault? = none) {place : List Text} {es : List (Text × Node)}
    (hroot : disk.locate true plan.input = .ok (.found place (.dir es))) {start : Progress}
    (hstart : start.disk = disk) {done : List Path}
    (hdone : ∀ f ∈ done, f ∈ (files plan.rules disk plan.input).state)
    (hend : plan.Harmless disk (actAll plan.documentBound done start).state) :
    ∀ before file after p, done = before ++ file :: after → actAll plan.documentBound before start = .next p →
      p.disk.read file = disk.read file := by
  intro before file after p hsplit hacts
  have hsteady := documentBound_steady hd hout hroot
  have hsurvey : Surveys plan.rules disk plan.input place (fun _ => True) (files plan.rules disk plan.input) :=
    files_surveys hd hname hroot
  have hbefore : ∀ f ∈ before, f ∈ (files plan.rules disk plan.input).state := by
    intro f hf
    exact hdone f (hsplit ▸ List.mem_append_left _ hf)
  -- The state in which the file is read is harmless, since the later ones are.
  have hp : plan.Harmless disk p := by
    rw [hsplit, actAll_append, hacts] at hend
    exact actAll_reflects harmless_reflects hend
  have hinitial : Grown plan.rules disk start.disk := by
    rw [hstart]
    exact ⟨hd, .refl _, .refl _ _, hfree⟩
  have hgrown := hsteady.actAll (fun f hf => hsurvey.names hd f (hbefore f hf)) hinitial hacts hp
  exact read_source hd hgrown hname hroot (hdone file (hsplit ▸ List.mem_append_right _ (List.mem_cons_self ..)))

/-- On files without links, a run whose pages have not the suffix of sources goes through the files that a walk
finds at the start, and reads each of them as it was at the start. It does what the run does that makes the whole
walk first, unless it is cut short by something that it has made below the input directory at a path that is too
long. -/
theorem run_undisturbed (plan : RunPlan) {disk : Disk} (log : Log) (hd : disk.WellFormed)
    (hfree : ∀ q t, disk.at? q ≠ some (.link t)) (hout : plan.output.Plain)
    (hpages : ∀ t ∈ (plan.run disk log).state.written, t.suffix ≠ plan.rules.suffix)
    (hlists : plan.ListsNew disk (plan.run disk log).state.disk) :
    ∃ done rest, (files plan.rules disk plan.input).state = done ++ rest ∧
      (∀ before file after p, done = before ++ file :: after →
        actAll plan.documentBound before (plan.start disk log) = .next p → p.disk.read file = disk.read file) ∧
      (rest = [] ∧ plan.run disk log = plan.runListed disk log ∨
        ∃ place es p rel, disk.locate true plan.input = .ok (.found place (.dir es)) ∧
          actAll plan.documentBound done (plan.start disk log) = .next p ∧
          LongNew disk p.disk plan.input place rel ∧
          plan.run disk log = ⟨p, some (.system .nameTooLong (plan.input.below rel).text)⟩) := by
  obtain ⟨_, hdisk, hwritten, _⟩ := andThen_finish
    (visit plan.rules Progress.disk plan.documentBound plan.input (plan.start disk log))
  rw [← run_eq] at hdisk hwritten
  have hend : plan.Harmless disk
      (visit plan.rules Progress.disk plan.documentBound plan.input (plan.start disk log)).state := by
    refine ⟨?_, ?_⟩
    · rw [← hwritten]
      exact hpages
    · rw [← hdisk]
      exact hlists
  by_cases hinput : plan.input.text.nameFault? = none ∧
      ∃ place es, disk.locate true plan.input = .ok (.found place (.dir es))
  · obtain ⟨hname, place, es, hroot⟩ := hinput
    have hreplays : Replays Progress.disk plan.documentBound disk plan.input place (plan.start disk log) _ _ :=
      visit_replays (documentBound_steady hd hout hroot) hfree hname hroot hend
    rcases hreplays with heq | ⟨done, rest, p, rel, hdone, hacts, hlong, hstop⟩
    · refine ⟨(files plan.rules disk plan.input).state, [], (List.append_nil _).symm, ?_, Or.inl ⟨rfl, ?_⟩⟩
      · refine read_sources hd hfree hout hname hroot rfl (fun _ hf => hf) ?_
        rw [heq] at hend
        exact andThen_reflects (fun _ h => h) hend
      · rw [run_eq, heq]
        rfl
    · rw [hstop] at hend
      refine ⟨done, rest, hdone, ?_, Or.inr ⟨place, es, p, rel, hroot, hacts, hlong, ?_⟩⟩
      · refine read_sources hd hfree hout hname hroot rfl (fun f hf => hdone ▸ List.mem_append_left _ hf) ?_
        rw [hacts]
        exact hend
      · rw [run_eq, hstop]
        rfl
  · -- The input is no directory, and both runs stop at once.
    have hno : (plan.start disk log).disk.isDirectory plan.input ≠ .ok true :=
      fun h => hinput (Disk.isDirectory_eq_true.mp h)
    obtain ⟨halt, hvisit, hfiles⟩ :
        ∃ halt, visit plan.rules Progress.disk plan.documentBound plan.input (plan.start disk log) = _ ∧
          files plan.rules disk plan.input = ⟨[], some halt⟩ := visit_no_directory hno
    refine ⟨[], [], ?_, ?_, Or.inl ⟨rfl, ?_⟩⟩
    · rw [hfiles]
      rfl
    · intro before file after p hsplit
      exact absurd hsplit.symm (by simp)
    · rw [run_eq, hvisit, runListed, hfiles]
      rfl

theorem target_suffix {dirs : List Text} (hdirs : ∀ x ∈ dirs, isName x = true) {name : Text}
    (hname : isName name = true) {tail : Text} (hsuffix : plan.pageSuffix = Path.dot :: tail) (htail : tail ≠ [])
    (hdot : Path.dot ∉ tail) {target : Path} (h : plan.target (plan.input.below (dirs ++ [name])) = .ok target) :
    target.suffix = plan.pageSuffix := by
  have hne := Path.isName_ne_nil hname
  rw [RunPlan.target, relative_below] at h
  obtain ⟨_, rfl⟩ := (pagePath_eq_ok hdirs hne).mp h
  rw [Path.pageParts_eq hne (by rw [hsuffix]; exact List.cons_ne_nil _ _), Path.below_snoc_suffix, hsuffix,
    Path.splitSuffix_stem_append (Path.splitSuffix_stem_ne_nil hne) htail hdot]

/-- Pages have the suffix of pages, if that has a dot only at its start. -/
theorem run_pages_suffix (plan : RunPlan) {disk : Disk} (log : Log) (hd : disk.WellFormed)
    (hout : plan.output.Plain) {tail : Text} (hsuffix : plan.pageSuffix = Path.dot :: tail) (htail : tail ≠ [])
    (hdot : Path.dot ∉ tail) : ∀ t ∈ (plan.run disk log).state.written, t.suffix = plan.pageSuffix := by
  obtain ⟨htrail, hord⟩ : Trail plan.rules Progress.disk plan.documentBound (plan.start disk log) _ _ ∧ _ :=
    visit_trail (documentBound_keeps hout) (plan.start disk log) hd
  rw [run_eq, (andThen_finish _).2.2.1]
  refine @Trail.preserves _ _ _ _ (fun p => ∀ t ∈ p.written, t.suffix = plan.pageSuffix) _ _ _ htrail
    (fun file hfile p hp t ht => ?_) (fun t ht => absurd ht List.not_mem_nil)
  obtain ⟨rel, hrel, hnames, rfl⟩ := hord.below file hfile
  have hdoc := documentBound_documented plan (plan.input.below ([] ++ rel)) p
  generalize plan.documentBound (plan.input.below ([] ++ rel)) p = o at hdoc ht
  cases hdoc with
  | unrendered _ _ hwritten _ => exact hp t (hwritten ▸ ht)
  | unwritten _ _ hwritten _ => exact hp t (hwritten ▸ ht)
  | @written p' text target hrendered hwrite hwritten _ =>
    have ht' : t ∈ p.written ++ [target] := hwritten ▸ ht
    rcases List.mem_append.mp ht' with ht' | ht'
    · exact hp t ht'
    · rw [List.mem_singleton.mp ht']
      obtain ⟨_, _, _, htarget, _⟩ := pageOf_of_written hrendered hwrite
      rcases List.eq_nil_or_concat rel with he | ⟨dirs, name, he⟩
      · exact absurd he hrel
      · rw [List.concat_eq_append] at he
        subst he
        exact target_suffix (fun x hx => hnames x (List.mem_append_left _ hx))
          (hnames name (List.mem_append_right _ (List.mem_singleton_self name))) hsuffix htail hdot htarget

/-- Two source files in a directory that also takes the pages. -/
def nestedTree : Disk := ⟨.dir [("in", .dir [("a.py", .file []), ("b.py", .file [])])], [], {}⟩

/-- A plan for pages between the source files. -/
def nestedPlan : RunPlan :=
  ⟨Path.ofText "in", Path.ofText "in/a", ⟨".py", []⟩, ".html", ⟨fun _ _ => .ok (.empty, .mk none [])⟩,
    Renderer.standard⟩

theorem nestedTree_wellFormed : nestedTree.WellFormed := by
  refine .dir (by decide) (by decide) fun e he => ?_
  rw [List.mem_singleton.mp he]
  refine .dir (by decide) (by decide) fun e he => ?_
  rcases List.mem_cons.mp he with rfl | he
  · exact .file []
  · rw [List.mem_singleton.mp he]
    exact .file []

theorem nestedTree_linkFree : ∀ q t, nestedTree.at? q ≠ some (.link t) := by
  have hfile : ∀ q t, (Node.file []).at? q ≠ some (.link t) := by
    intro q t h
    cases q with
    | nil => cases h
    | cons x q => cases h
  intro q t h
  cases q with
  | nil => cases h
  | cons x q =>
    obtain ⟨n, hn, h⟩ := Node.at?_dir_cons_eq_some h
    cases List.mem_singleton.mp (Node.mem_of_lookup hn)
    cases q with
    | nil => cases h
    | cons y q =>
      obtain ⟨m, hm, h⟩ := Node.at?_dir_cons_eq_some h
      rcases List.mem_cons.mp (Node.mem_of_lookup hm) with he | he
      · cases he
        exact hfile q t h
      · cases List.mem_singleton.mp he
        exact hfile q t h

theorem run_undisturbed_nested :
    nestedTree.WellFormed ∧ (∀ q t, nestedTree.at? q ≠ some (.link t)) ∧ nestedPlan.output.Plain ∧
    (∀ t ∈ (nestedPlan.run nestedTree .unconfigured).state.written, t.suffix ≠ nestedPlan.rules.suffix) ∧
    nestedPlan.ListsNew nestedTree (nestedPlan.run nestedTree .unconfigured).state.disk ∧
    ∃ done rest, (files nestedPlan.rules nestedTree nestedPlan.input).state = done ++ rest ∧
      (rest = [] ∧ nestedPlan.run nestedTree .unconfigured = nestedPlan.runListed nestedTree .unconfigured ∨
        ∃ place p rel, LongNew nestedTree p.disk nestedPlan.input place rel ∧
          nestedPlan.run nestedTree .unconfigured =
            ⟨p, some (.system .nameTooLong (nestedPlan.input.below rel).text)⟩) := by
  have hd := nestedTree_wellFormed
  have hout : nestedPlan.output.Plain := Path.plain_ofText _
  have hpages : ∀ t ∈ (nestedPlan.run nestedTree .unconfigured).state.written,
      t.suffix ≠ nestedPlan.rules.suffix := by
    intro t ht
    have hsuffix : nestedPlan.pageSuffix = Path.dot :: Text.ofString "html" := by decide
    rw [run_pages_suffix nestedPlan .unconfigured hd hout hsuffix (by decide) (by decide) t ht]
    decide
  have hlists : nestedPlan.ListsNew nestedTree (nestedPlan.run nestedTree .unconfigured).state.disk :=
    fun _ _ _ _ _ _ => rfl
  obtain ⟨done, rest, hfiles, _, hend⟩ :=
    run_undisturbed nestedPlan .unconfigured hd nestedTree_linkFree hout hpages hlists
  refine ⟨hd, nestedTree_linkFree, hout, hpages, hlists, done, rest, hfiles, hend.imp_right ?_⟩
  rintro ⟨place, _, p, rel, _, _, hlong, hrun⟩
  exact ⟨place, p, rel, hlong, hrun⟩

end RunPlan

end ModuleDocs
