import ModuleDocs.Proofs.Page.Encoding
import ModuleDocs.Proofs.Run.FailFast
import ModuleDocs.Proofs.Storage.FailedWrite
import ModuleDocs.Proofs.Walk.Halts
import ModuleDocs.Proofs.Walk.Replay

/-!
# Which failures say where they arose

A run that is stopped ends with a failure that has a path, except where a path is too long or no file can have it, where
a directory may not be searched, where a page cannot be encoded, and where an exception of the checker has no text.
-/

namespace ModuleDocs

open ModuleDocs.Path (isName isSuffix)

def Halt.Located (h : Halt) : Prop := ∃ f path, h = .failure f ∧ f.context.path = some path

/-! ### The stages of a run -/

theorem withSuffix_ok {p : Path} (hname : p.name ≠ []) {suffix : Text} (hs : isSuffix suffix = true) :
    ∃ q, p.withSuffix suffix = .ok q := ⟨_, Path.withSuffix_eq_ok.mpr ⟨hs, hname, rfl⟩⟩

theorem moduleName_located {p : Path} (hname : p.name ≠ []) {h : Halt} (herror : moduleName p = .error h) :
    h.Located := by
  obtain ⟨bare, hbare⟩ : ∃ q, p.withSuffix [] = .ok q := withSuffix_ok hname rfl
  unfold moduleName at herror
  rw [hbare] at herror
  dsimp only [Except.mapError, bind, Except.bind] at herror
  split at herror
  · cases herror
  · cases herror
    exact ⟨_, _, rfl, rfl⟩

theorem moduleName_hasEncoding {p : Path} {name : Text} (hname : moduleName p = .ok name) : name.HasEncoding := by
  obtain ⟨bare, _, hjoin⟩ := bind_eq_ok.mp hname
  dsimp only at hjoin
  split at hjoin
  · rename_i bytes hbytes
    cases hjoin
    exact (Text.toUtf8_ok_iff _).mp ⟨bytes, hbytes⟩
  · cases hjoin

theorem readSource_halt {d : Disk} {p : Path} {h : Halt} (herror : readSource d p = .error h) :
    h.Located ∨ ∃ f, p.text.nameFault? = some f ∧ h = .name f := by
  unfold readSource at herror
  cases hname : p.text.nameFault? with
  | some f =>
    rw [hname] at herror
    cases herror
    exact .inr ⟨f, rfl, rfl⟩
  | none =>
    rw [hname] at herror
    dsimp only at herror
    split at herror
    · cases herror
      exact .inl ⟨_, _, rfl, rfl⟩
    · split at herror
      · cases herror
        exact .inl ⟨_, _, rfl, rfl⟩
      · cases herror

theorem ofDirectory_located {d : Disk} {directory : Path} {f : Failure}
    (herror : Renderer.ofDirectory d directory = .error f) :
    f.context.path = some (directory.child Renderer.templateName).text := by
  unfold Renderer.ofDirectory at herror
  dsimp only at herror
  split at herror
  · split at herror
    · cases herror
    · cases herror
      rfl
  · cases herror
    rfl
  · cases herror
    rfl

namespace RunPlan

variable {plan : RunPlan}

/-- A file can have the path of a page if this holds of its source, of the output directory and of the suffix. -/
theorem target_nameFault? {file target : Path} (htarget : plan.target file = .ok target)
    (hfile : file.text.nameFault? = none) (hout : plan.output.text.nameFault? = none)
    (hsuffix : plan.pageSuffix.Nameable) : target.text.nameFault? = none := by
  rw [Path.nameFault?_text] at hfile hout ⊢
  obtain ⟨q, hq, rfl⟩ := pagePath_eq_append.mp htarget
  obtain ⟨_, _, rfl⟩ := Path.withSuffix_eq_ok.mp hq
  have hsource : ∀ part ∈ (plan.relative file).parts, part.Nameable :=
    fun part hpart => hfile part (List.mem_of_mem_drop hpart)
  intro part hpart
  rcases List.mem_append.mp hpart with hpart | hpart
  · exact hout part hpart
  · rcases List.mem_append.mp (List.mem_of_mem_filter hpart) with hpart | hpart
    · exact hsource part (List.dropLast_subset _ hpart)
    · rw [List.mem_singleton.mp hpart]
      exact Text.nameable_append.mpr ⟨Path.stem_nameable hsource, hsuffix⟩

/-! ### One file -/

/-- No file can have the path of a file, of its page or of the directory of its page. -/
def Misnamed (plan : RunPlan) (file : Path) (f : NameFault) : Prop :=
  file.text.nameFault? = some f ∨
    ∃ target, plan.target file = .ok target ∧ (target.parent.text.nameFault? = some f ∨ target.text.nameFault? = some f)

/-- How the documentation of a file is stopped. -/
inductive StopsOn (plan : RunPlan) (d : Disk) (file : Path) : Halt → Prop where
  | located {h : Halt} : h.Located → StopsOn plan d file h
  | misnamed {f : NameFault} : plan.Misnamed file f → StopsOn plan d file (.name f)
  /-- The checker raises an exception that does not give its text. -/
  | mute {name source : Text} {again : Foreign} : readSource d file = .ok source →
      plan.checker.check name source = .error (.mute again) → StopsOn plan d file (.crash again)
  /-- The page cannot be encoded. -/
  | unencodable {text : Text} {fault : EncodeFault} : plan.rendered d file = .ok text → text.toUtf8 = .error fault →
      StopsOn plan d file (.unencodable fault)

theorem extract_stopsOn {d : Disk} {file : Path} {name : Text} {h : Halt}
    (herror : (extract d plan.checker file name).result = .error h) : plan.StopsOn d file h := by
  unfold extract at herror
  cases hread : readSource d file with
  | error g =>
    rw [hread] at herror
    cases herror
    rcases readSource_halt hread with hlocated | ⟨f, hf, rfl⟩
    · exact .located hlocated
    · exact .misnamed (.inl hf)
  | ok source =>
    rw [hread] at herror
    dsimp only at herror
    cases hcheck : plan.checker.check name source with
    | ok ic =>
      rw [hcheck] at herror
      cases herror
    | error rejection =>
      rw [hcheck] at herror
      cases herror
      cases rejection with
      | failure g => exact .located ⟨_, _, rfl, rfl⟩
      | crash e => exact .located ⟨_, _, rfl, rfl⟩
      | mute again => exact .mute hread hcheck

theorem rendered_stopsOn {d : Disk} {file : Path} (hname : (plan.relative file).name ≠ []) {h : Halt}
    (herror : plan.rendered d file = .error h) : plan.StopsOn d file h := by
  unfold rendered at herror
  cases hmodule : moduleName (plan.relative file) with
  | error h' =>
    rw [hmodule] at herror
    cases herror
    exact .located (moduleName_located hname hmodule)
  | ok name =>
    rw [hmodule] at herror
    dsimp only at herror
    cases hresult : (extract d plan.checker file name).result with
    | error h' =>
      rw [hresult] at herror
      cases herror
      exact extract_stopsOn hresult
    | ok ic =>
      rw [hresult] at herror
      dsimp only at herror
      cases hpage : plan.renderer.page ⟨name, Record.build ic.1 ic.2⟩ with
      | ok text =>
        rw [hpage] at herror
        cases herror
      | error f =>
        rw [hpage] at herror
        cases herror
        exact .located ⟨_, file.text, rfl, rfl⟩

theorem writePage_stopsOn {d d' : Disk} {file : Path} {text : Text} {h : Halt}
    (hname : (plan.relative file).name ≠ []) (hs : isSuffix plan.pageSuffix = true)
    (hrendered : plan.rendered d file = .ok text)
    (herror : writePage d plan.output (plan.relative file) plan.pageSuffix text = (d', .error h)) :
    plan.StopsOn d file h := by
  cases writePage_failure herror with
  | pathless hfault =>
    obtain ⟨q, hq⟩ := withSuffix_ok hname hs
    rw [pagePath_eq_append.mpr ⟨q, hq, rfl⟩] at hfault
    cases hfault
  | misnamed htarget hfault _ _ => exact .misnamed (.inr ⟨_, htarget, hfault⟩)
  | refused _ hf _ _ =>
    rcases hf with ⟨r, rfl⟩ | ⟨g, rfl⟩
    · exact .located ⟨_, _, rfl, rfl⟩
    · exact .located ⟨_, _, rfl, rfl⟩
  | emptied hfault _ _ _ _ => exact .unencodable hrendered hfault
  | cut _ _ _ _ _ _ _ => exact .located ⟨_, _, rfl, rfl⟩

theorem documentBound_stopsOn {file : Path} (hname : (plan.relative file).name ≠ [])
    (hs : isSuffix plan.pageSuffix = true) {p : Progress} {h : Halt}
    (hhalt : (plan.documentBound file p).halt = some h) : plan.StopsOn p.disk file h := by
  have hdoc := documentBound_documented plan file p
  generalize plan.documentBound file p = o at hdoc hhalt
  cases hdoc with
  | unrendered hrendered _ _ _ =>
    cases hhalt
    exact rendered_stopsOn hname hrendered
  | unwritten hrendered hwrite _ _ =>
    cases hhalt
    exact writePage_stopsOn hname hs hrendered hwrite
  | written => cases hhalt

/-! ### Whole runs -/

/-- How a run is stopped that has come to some files, where `final` is the disk at its end. -/
inductive Stopped (plan : RunPlan) (start : Progress) (files : List Path) (final : Disk) : Halt → Prop where
  | located {h : Halt} : h.Located → Stopped plan start files final h
  /-- The last file is not documented. -/
  | file {before : List Path} {file : Path} {h : Halt} : files = before ++ [file] →
      plan.StopsOn (plan.diskAt start files before.length) file h → Stopped plan start files final h
  /-- The system refuses to look at the input directory or at a path below it: the path is too long, or a directory may
  not be searched. -/
  | refused {rel : List Text} {follow : Bool} {f : SystemFault} : (∀ x ∈ rel, isName x = true) →
      final.node follow (plan.input.below rel) = .error f →
      f = .nameTooLong ∧ start.disk.Refuses (plan.input.below rel) ∨ f = .denied ∧ final.Shut →
      Stopped plan start files final (.system f (plan.input.below rel).text)

theorem relative_name {rel : List Text} (hrel : rel ≠ []) (hnames : ∀ x ∈ rel, isName x = true) :
    (plan.relative (plan.input.below rel)).name ≠ [] := by
  rw [relative_below]
  obtain ⟨last, hlast⟩ := List.getLast?_isSome.mpr hrel |> Option.isSome_iff_exists.mp
  have hname : Path.name ⟨.none, rel⟩ = last := by simp [Path.name, hlast]
  rw [hname]
  exact Path.isName_ne_nil (hnames last (List.mem_of_getLast? hlast))

/-- What is known of a run while it goes on: the files so far have been documented. -/
structure Underway (plan : RunPlan) (start : Progress) (t : Progress × List Path) : Prop where
  wellFormed : t.1.disk.WellFormed
  grows : start.disk.Extends t.1.disk
  done : Walk.actAll plan.documentBound t.2 start = .next t.1

theorem underway_watched (hout : plan.output.Plain) (hs : isSuffix plan.pageSuffix = true) (start : Progress) :
    Walk.Watched (fun t : Progress × List Path => t.1.disk) (Walk.noting plan.documentBound) plan.input
      (plan.Underway start) fun t h => plan.Stopped start t.2 t.1.disk h where
  wellFormed _ ht := ht.wellFormed
  acted t ht rel hrel hnames hhalt := by
    have hact : plan.documentBound (plan.input.below rel) t.1 =
        .next (plan.documentBound (plan.input.below rel) t.1).state := congrArg (Outcome.mk _) hhalt
    refine ⟨documentBound_wellFormed hout hnames ht.wellFormed,
      ht.grows.trans (documentBound_documented plan _ t.1).extends, ?_⟩
    show Walk.actAll plan.documentBound (t.2 ++ [plan.input.below rel]) start = _
    rw [Walk.actAll_append, ht.done]
    show (plan.documentBound (plan.input.below rel) t.1).andThen .next = _
    rw [hact]
    rfl
  stopped t ht rel hrel hnames h hhalt := by
    have hdisk : plan.diskAt start (t.2 ++ [plan.input.below rel]) t.2.length = t.1.disk := by
      rw [diskAt, List.take_left, ht.done]
      rfl
    have hstops : plan.StopsOn t.1.disk (plan.input.below rel) h :=
      documentBound_stopsOn (relative_name hrel hnames) hs hhalt
    rw [← hdisk] at hstops
    exact .file rfl hstops
  noRoot _ _ := .located ⟨_, _, rfl, rfl⟩
  unlisted _ _ _ _ := .located ⟨_, _, rfl, rfl⟩
  refused t ht rel hnames follow f hnode habsent :=
    .refused hnames hnode ((Disk.node_refused hnode habsent).imp_left fun h => ⟨h.1, ht.grows.refuses h.2⟩)

theorem run_stopped (plan : RunPlan) {disk : Disk} (log : Log) (hd : disk.WellFormed) (hout : plan.output.Plain)
    (hs : isSuffix plan.pageSuffix = true) {h : Halt} (hhalt : (plan.run disk log).halt = some h) :
    plan.Stopped (plan.start disk log) (plan.reached disk log) (plan.run disk log).state.disk h := by
  have hunderway : plan.Underway (plan.start disk log) (plan.start disk log, []) := ⟨hd, .refl _, rfl⟩
  have hends : Walk.Ends _ _ (Walk.visit plan.rules _ _ plan.input _) :=
    Walk.visit_ends (underway_watched hout hs (plan.start disk log)) _ hunderway
  obtain ⟨hsame, hstate⟩ := Walk.visit_noting (documentBound_keeps hout) (plan.start disk log) hd
  rw [run_eq, (andThen_finish _).1] at hhalt
  have hstopped := hends.halt h (hsame.trans hhalt)
  rw [hstate] at hstopped
  rw [run_eq, (andThen_finish _).2.1]
  exact hstopped

/-- A standard page of a file checked as Python that cannot be encoded shows a comment that cannot. -/
theorem rendered_comment {env : Environment} (hchecker : plan.checker = Checker.python env)
    (hrenderer : plan.renderer = Renderer.standard) {d : Disk} {file : Path} {text : Text}
    (hrendered : plan.rendered d file = .ok text) (htext : ¬ text.HasEncoding) :
    ∃ name source i c, readSource d file = .ok source ∧ (Checker.python env).check name source = .ok (i, c) ∧
      ∃ f ∈ (Record.build i c).types ++ (Record.build i c).values, ¬ f.comment.HasEncoding := by
  unfold rendered at hrendered
  cases hmodule : moduleName (plan.relative file) with
  | error h =>
    rw [hmodule] at hrendered
    cases hrendered
  | ok name =>
    rw [hmodule, hchecker, hrenderer] at hrendered
    dsimp only [extract] at hrendered
    cases hread : readSource d file with
    | error f =>
      rw [hread] at hrendered
      cases hrendered
    | ok source =>
      rw [hread] at hrendered
      dsimp only at hrendered
      cases hcheck : (Checker.python env).check name source with
      | error rejection =>
        rw [hcheck] at hrendered
        cases hrendered
      | ok ic =>
        rw [hcheck] at hrendered
        cases hrendered
        refine ⟨name, source, ic.1, ic.2, rfl, hcheck, ?_⟩
        -- The name of a module can always be encoded, and so can its fields but for their comments.
        have hfield := Checker.python_hasEncoding hcheck
        rw [Page.hasEncoding_render, not_and] at htext
        have hfields := htext (moduleName_hasEncoding hmodule)
        simp only [not_forall, exists_prop] at hfields
        obtain ⟨f, hf, hnot⟩ := hfields
        exact ⟨f, hf, fun hcomment => hnot ((hfield f hf).mpr hcomment)⟩

theorem Stopped.source_of_name {start : Progress} {files : List Path} {final : Disk} {f : NameFault}
    (h : plan.Stopped start files final (.name f)) (hout : plan.output.text.nameFault? = none)
    (hsuffix : plan.pageSuffix.Nameable) : ∃ file ∈ files, file.text.nameFault? ≠ none := by
  cases h with
  | located h => obtain ⟨_, _, ⟨⟩, _⟩ := h
  | @file before file _ hfiles hstops =>
    refine ⟨file, hfiles ▸ List.mem_append_right _ (List.mem_singleton_self file), fun hfile => ?_⟩
    cases hstops with
    | located h => obtain ⟨_, _, ⟨⟩, _⟩ := h
    | misnamed h =>
      rcases h with h | ⟨target, htarget, h⟩
      · rw [hfile] at h
        cases h
      · have hok := target_nameFault? htarget hfile hout hsuffix
        rw [hok, Path.nameFault?_parent hok] at h
        rcases h with ⟨⟨⟩⟩ | ⟨⟨⟩⟩

/-- The checker for Python gives the text of every exception. -/
theorem python_not_mute (env : Environment) (name source : Text) (again : Foreign) :
    (Checker.python env).check name source ≠ .error (.mute again) := by
  intro h
  simp only [Checker.python] at h
  split at h
  · cases h
  · cases hcheck : env.check (source.toChars?.getD []) with
    | ok ic =>
      rw [hcheck] at h
      cases h
    | error f =>
      rw [hcheck] at h
      rcases f with (line | _) | f <;> cases h

theorem Stopped.not_crash {env : Environment} (hchecker : plan.checker = Checker.python env) {start : Progress}
    {files : List Path} {final : Disk} {e : Foreign} : ¬ plan.Stopped start files final (.crash e) := by
  intro h
  cases h with
  | located h => obtain ⟨_, _, ⟨⟩, _⟩ := h
  | file _ hstops =>
    cases hstops with
    | located h => obtain ⟨_, _, ⟨⟩, _⟩ := h
    | mute _ hcheck => exact python_not_mute env _ _ e (hchecker ▸ hcheck)

/-- A plan for pages that show the comments of values, for a checker that finds a comment with a surrogate. -/
def surrogatePlan : RunPlan :=
  { barePlan with
    checker := ⟨fun _ _ => .ok (⟨[], [⟨"x", "int", "int"⟩]⟩, .mk none [("x", .mk (some [CodePoint.ofNat 0xD800]) [])])⟩
    renderer := fun m => .ok (m.record.values.flatMap Field.comment) }

end RunPlan

end ModuleDocs
