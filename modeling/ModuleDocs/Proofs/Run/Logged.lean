import ModuleDocs.Proofs.Run.FailFast
import ModuleDocs.Proofs.Storage.FailedWrite

/-!
# The log of a run

With the log set to the rank of information a run reports its start, every page that is completely written, and its end
if it gets there. The path of a source is bound while its page is made, and so belongs to the report about the page and
to no other. Between the report and the disk stands the page itself: what the event says is what was rendered, and the
file at the reported path holds it until a later page takes the same place.
-/

namespace ModuleDocs

/-! ### Logs for information -/

namespace Log

/-- The log takes information but no details, and no field is bound. -/
structure Informs (log : Log) : Prop where
  format : ∃ json, log.format = some ⟨Level.info.rank, json⟩
  unbound : log.bound = []

variable {log : Log}

theorem Informs.emit_debug (h : log.Informs) (bound : List (Text × Value)) (contexts : List (List Text))
    (name : Text) (fields : List (Text × Value)) :
    ({ log with bound, contexts }).emit .debug name fields = { log with bound, contexts } := by
  obtain ⟨json, hformat⟩ := h.format
  simp [emit, accepts, hformat, Level.rank]

theorem Informs.emit_info (h : log.Informs) (bound : List (Text × Value)) (contexts : List (List Text))
    (name : Text) (fields : List (Text × Value)) :
    ({ log with bound, contexts }).emit .info name fields =
      ⟨log.format, bound, contexts,
        log.emitted ++ [⟨.info, name, fields.foldl (fun b f => Value.set b f.1 f.2) bound⟩]⟩ := by
  obtain ⟨json, hformat⟩ := h.format
  simp [emit, accepts, hformat, Level.rank]

theorem Informs.emit_unbound (h : log.Informs) {name : Text} {fields : List (Text × Value)}
    (hfields : fields.foldl (fun b f => Value.set b f.1 f.2) [] = fields) :
    log.emit .info name fields = { log with emitted := log.emitted ++ [⟨.info, name, fields⟩] } := by
  have hemit := h.emit_info log.bound log.contexts name fields
  rw [h.unbound, hfields, ← h.unbound] at hemit
  exact hemit

end Log

/-! ### Pages that are not complete -/

/-- A page that is not written to its end is spoiled, or no file was touched. -/
theorem writePage_incomplete {d d' : Disk} {output source : Path} {suffix text : Text} {h : Halt}
    (herror : writePage d output source suffix text = (d', .error h)) :
    d.KeepsFiles d' (fun _ => False) ∨ ∃ target place kept, Spoiling d text target place kept h ∧
      d'.locate true target = .ok (.found place (.file kept)) := by
  cases writePage_failure herror with
  | pathless _ => exact .inl (.refl d _)
  | misnamed _ _ _ hkeep => exact .inl hkeep
  | refused _ _ _ hkeep => exact .inl hkeep
  | emptied hfault _ _ _ hloc => exact .inr ⟨_, _, _, .unencodable hfault, hloc⟩
  | cut hbytes hn hheld _ _ _ hloc => exact .inr ⟨_, _, _, .full hbytes hn hheld, hloc⟩

namespace RunPlan

/-! ### What is reported of a page -/

/-- A page with its source, the name of its module, its path and its text. -/
structure Publication where
  file : Path
  name : Text
  target : Path
  text : Text

def startedEvent (plan : RunPlan) : LogEvent :=
  ⟨.info, "doc_walk_started",
    [(Text.ofString "input_root", .str plan.input.text), (Text.ofString "output_root", .str plan.output.text)]⟩

/-- The report that a page is written. -/
def writtenEvent (plan : RunPlan) (x : Publication) : LogEvent :=
  ⟨.info, "doc_written",
    [(Text.ofString "source", .str (plan.relative x.file).text), (Text.ofString "module", .str x.name),
      (Text.ofString "output", .str x.target.text), (Text.ofString "size", .ofNat x.text.length)]⟩

/-- The report that a run is completed. -/
def completedEvent (pages : Nat) : LogEvent :=
  ⟨.info, "doc_walk_completed", [(Text.ofString "files", .ofNat pages)]⟩

/-- What becomes of the log when a file is documented. -/
inductive Reported (plan : RunPlan) (file : Path) (p : Progress) : Outcome Progress → Prop where
  | stopped {p' : Progress} {h : Halt} : p'.log = p.log → Reported plan file p ⟨p', some h⟩
  | written {p' : Progress} {name text : Text} {target : Path} : moduleName (plan.relative file) = .ok name →
      plan.rendered p.disk file = .ok text →
      writePage p.disk plan.output (plan.relative file) plan.pageSuffix text = (p'.disk, .ok target) →
      p'.written = p.written ++ [target] →
      p'.log = p.log.emit .info "doc_written"
        [(Text.ofString "module", .str name), (Text.ofString "output", .str target.text),
          (Text.ofString "size", .ofNat text.length)] →
      Reported plan file p (.next p')

variable {plan : RunPlan} {file : Path}

theorem document_reported {p : Progress}
    (hdebug : ∀ name fields, p.log.emit .debug name fields = p.log) : Reported plan file p (plan.document file p) := by
  unfold document
  cases hname : moduleName (plan.relative file) with
  | error h => exact .stopped rfl
  | ok name =>
    dsimp only
    cases hresult : (extract p.disk plan.checker file name).result with
    | error f => exact .stopped rfl
    | ok ic =>
      have hrendered : plan.rendered p.disk file =
          (plan.renderer.page ⟨name, Record.build ic.1 ic.2⟩).mapError fun f => .failure (f.about file.text) := by
        rw [rendered, hname]
        simp only [hresult]
      simp only [publish, hdebug]
      cases hpage : plan.renderer.page ⟨name, Record.build ic.1 ic.2⟩ with
      | error f => exact .stopped rfl
      | ok text =>
        rw [hpage] at hrendered
        dsimp only
        cases hwrite : writePage p.disk plan.output (plan.relative file) plan.pageSuffix text with
        | mk d r =>
          cases r with
          | error h => exact .stopped rfl
          | ok target => exact .written hname hrendered hwrite rfl rfl

/-- The fields that are bound while a file is documented. -/
def sourceFields (plan : RunPlan) (file : Path) : List (Text × Value) :=
  [(Text.ofString "source", .str (plan.relative file).text)]

def reportedLog (plan : RunPlan) (log : Log) (x : Publication) : Log :=
  { log with emitted := log.emitted ++ [plan.writtenEvent x] }

theorem informs_reportedLog {log : Log} (h : log.Informs) (x : Publication) : (plan.reportedLog log x).Informs :=
  ⟨h.format, h.unbound⟩

theorem enter_source {log : Log} (h : log.Informs) (file : Path) :
    log.enter (plan.sourceFields file) =
      { log with bound := plan.sourceFields file, contexts := [Text.ofString "source"] :: log.contexts } := by
  simp [Log.enter, sourceFields, h.unbound, Value.set]

theorem leave_source {log : Log} (h : log.Informs) (file : Path) (emitted : List LogEvent) :
    (⟨log.format, plan.sourceFields file, [Text.ofString "source"] :: log.contexts, emitted⟩ : Log).leave =
      { log with emitted } := by
  simp [Log.leave, Log.leave?, sourceFields, h.unbound]

/-- The state in which a file is documented: its path is bound. -/
def bound (plan : RunPlan) (file : Path) (p : Progress) : Progress :=
  { p with log :=
    { p.log with bound := plan.sourceFields file, contexts := [Text.ofString "source"] :: p.log.contexts } }

theorem documentBound_eq {p : Progress} (hlog : p.log.Informs) :
    plan.documentBound file p =
      ⟨{ (plan.document file (plan.bound file p)).state with
          log := (plan.document file (plan.bound file p)).state.log.leave },
        (plan.document file (plan.bound file p)).halt⟩ := by
  have henter : ({ p with log := p.log.enter (plan.sourceFields file) } : Progress) = plan.bound file p := by
    rw [enter_source hlog, bound]
  rw [← henter]
  rfl

theorem bound_reported (plan : RunPlan) (file : Path) {p : Progress} (hlog : p.log.Informs) :
    Reported plan file (plan.bound file p) (plan.document file (plan.bound file p)) :=
  document_reported fun name fields => hlog.emit_debug _ _ name fields

/-- A file that is not documented to the end leaves no trace in the log. -/
theorem documentBound_stopped {p p' : Progress} {h : Halt} (hlog : p.log.Informs)
    (ho : plan.documentBound file p = ⟨p', some h⟩) : p'.log = p.log := by
  have hreported := bound_reported plan file hlog
  rw [documentBound_eq hlog] at ho
  generalize plan.document file (plan.bound file p) = o at hreported ho
  cases hreported with
  | stopped hl =>
    cases ho
    dsimp only
    rw [hl]
    exact leave_source hlog file p.log.emitted
  | written => cases ho

/-- A page that is written is reported once. -/
theorem documentBound_written {p p' : Progress} (hlog : p.log.Informs)
    (ho : plan.documentBound file p = .next p') : ∃ x : Publication, x.file = file ∧
      moduleName (plan.relative file) = .ok x.name ∧ plan.rendered p.disk file = .ok x.text ∧
      writePage p.disk plan.output (plan.relative file) plan.pageSuffix x.text = (p'.disk, .ok x.target) ∧
      p'.written = p.written ++ [x.target] ∧ p'.log = plan.reportedLog p.log x := by
  have hreported := bound_reported plan file hlog
  rw [documentBound_eq hlog] at ho
  generalize plan.document file (plan.bound file p) = o at hreported ho
  cases hreported with
  | stopped => cases ho
  | @written q name text target hname hrendered hwrite hwritten hl =>
    cases ho
    refine ⟨⟨file, name, target, text⟩, rfl, hname, hrendered, hwrite, hwritten, ?_⟩
    have hemit := hlog.emit_info (plan.sourceFields file) ([Text.ofString "source"] :: p.log.contexts) "doc_written"
      [(Text.ofString "module", .str name), (Text.ofString "output", .str target.text),
        (Text.ofString "size", .ofNat text.length)]
    have hfields : plan.writtenEvent ⟨file, name, target, text⟩ = ⟨.info, "doc_written",
        [(Text.ofString "module", .str name), (Text.ofString "output", .str target.text),
          (Text.ofString "size", .ofNat text.length)].foldl (fun b f => Value.set b f.1 f.2)
            (plan.sourceFields file)⟩ := rfl
    show q.log.leave = _
    rw [hl, reportedLog, hfields]
    exact (congrArg Log.leave hemit).trans (leave_source hlog file _)

/-! ### The pages behind the reports -/

/-- A page that is completely written: it is what was rendered, it is at its path, and no other file has changed. -/
structure Published (plan : RunPlan) (d d' : Disk) (x : Publication) : Prop where
  name : moduleName (plan.relative x.file) = .ok x.name
  target : plan.target x.file = .ok x.target
  text : plan.rendered d x.file = .ok x.text
  complete : ∃ bytes place, x.text.toUtf8 = .ok bytes ∧ d'.locate true x.target = .ok (.found place (.file bytes))
  grows : d.Extends d'
  frame : d.KeepsFiles d' (plan.PageAt d' x.file)

/-- Pages that are completely written, one after the other. -/
inductive Publishes (plan : RunPlan) : Disk → List Publication → Disk → Prop where
  | nil (d : Disk) : Publishes plan d [] d
  | cons {d d' final : Disk} {x : Publication} {xs : List Publication} : plan.Published d d' x →
      Publishes plan d' xs final → Publishes plan d (x :: xs) final

/-- What is left of the file at which a run stops, if it stops at one: no file is touched, or a page that cannot be
encoded, or finds no room, is broken. -/
inductive Leftover (plan : RunPlan) (d d' : Disk) : List Path → Prop where
  | untouched : d.Extends d' → d.KeepsFiles d' (fun _ => False) → Leftover plan d d' []
  | broken {file target : Path} {text : Text} {place : List Text} {kept : List UInt8} {h : Halt} :
      plan.rendered d file = .ok text → Spoiling d text target place kept h →
      d'.locate true target = .ok (.found place (.file kept)) → d.Extends d' → d.KeepsFiles d' (plan.PageAt d' file) →
      Leftover plan d d' [file]

theorem published_of_written {d d' : Disk} {x : Publication} (hname : moduleName (plan.relative x.file) = .ok x.name)
    (hrendered : plan.rendered d x.file = .ok x.text)
    (hwrite : writePage d plan.output (plan.relative x.file) plan.pageSuffix x.text = (d', .ok x.target)) :
    plan.Published d d' x := by
  have hpage := writePage_pageWriting hwrite
  have hframe := hpage.keepsFiles
  cases hpage with
  | @written _ _ place bytes hx _ htarget _ _ hbytes _ hloc =>
    exact ⟨hname, htarget, hrendered, ⟨bytes, place, hbytes, hloc⟩, hx, hframe⟩

theorem leftover_of_stopped {p p' : Progress} {h : Halt} (ho : plan.documentBound file p = ⟨p', some h⟩) :
    p'.written = p.written ∧ ∃ rest, plan.Leftover p.disk p'.disk rest := by
  have hdoc := documentBound_documented plan file p
  rw [ho] at hdoc
  have hx := hdoc.extends
  cases hdoc with
  | unrendered _ hdisk hwritten _ =>
    refine ⟨hwritten, [], .untouched hx ?_⟩
    rw [hdisk]
    exact .refl _ _
  | unwritten hrendered hwrite hwritten _ =>
    refine ⟨hwritten, ?_⟩
    rcases writePage_incomplete hwrite with hkeeps | ⟨_, _, _, hspoiling, hloc⟩
    · exact ⟨[], .untouched hx hkeeps⟩
    · exact ⟨[file], .broken hrendered hspoiling hloc hx (writePage_pageWriting hwrite).keepsFiles⟩

theorem Leftover.keeps {d d' : Disk} {rest : List Path} (h : plan.Leftover d d' rest) :
    d.Extends d' ∧ d.KeepsFiles d' fun place => ∃ g ∈ rest, plan.PageAt d' g place := by
  cases h with
  | untouched hx hkeeps => exact ⟨hx, hkeeps.mono fun _ h => h.elim⟩
  | broken _ _ _ hx hkeeps => exact ⟨hx, hkeeps.mono fun _ h => ⟨_, List.mem_singleton_self _, h⟩⟩

theorem Publishes.keeps {d mid final : Disk} {xs : List Publication} {rest : List Path} (h : plan.Publishes d xs mid)
    (hrest : plan.Leftover mid final rest) :
    d.Extends final ∧
      d.KeepsFiles final fun place => ∃ g ∈ xs.map Publication.file ++ rest, plan.PageAt final g place := by
  induction h with
  | nil d => exact hrest.keeps
  | @cons d d' mid x xs hx _ ih =>
    obtain ⟨hgrows, hframe⟩ := ih hrest
    refine ⟨hx.grows.trans hgrows,
      Disk.KeepsFiles.trans (hx.frame.mono fun place hat => ?_) (hframe.mono fun place hat => ?_)⟩
    · exact ⟨x.file, List.mem_cons_self, PagePlace.extends hgrows hat⟩
    · obtain ⟨g, hg, hat⟩ := hat
      exact ⟨g, List.mem_cons_of_mem _ hg, hat⟩

/-- A page stays as it was written, unless the page of a later file is at the same place. -/
theorem Publishes.stands {d mid final : Disk} {xs : List Publication} {rest : List Path} (h : plan.Publishes d xs mid)
    (hrest : plan.Leftover mid final rest) {before after : List Publication} {x : Publication}
    (hxs : xs = before ++ x :: after) :
    ∃ bytes, x.text.toUtf8 = .ok bytes ∧ (final.node true x.target = .ok (.file bytes) ∨
      ∃ g ∈ after.map Publication.file ++ rest, ∃ place,
        plan.PageAt final x.file place ∧ plan.PageAt final g place) := by
  induction h generalizing before with
  | nil d => simp at hxs
  | @cons d d' mid y ys hy hys ih =>
    cases before with
    | cons z before =>
      cases hxs
      exact ih hrest rfl
    | nil =>
      cases hxs
      obtain ⟨bytes, place, hbytes, hloc⟩ := hy.complete
      obtain ⟨hgrows, hframe⟩ := hys.keeps hrest
      refine ⟨bytes, hbytes, ?_⟩
      by_cases hlater : ∃ g ∈ after.map Publication.file ++ rest, plan.PageAt final g place
      · obtain ⟨g, hg, hat⟩ := hlater
        have hmine : plan.PageAt d' x.file place := ⟨x.target, bytes, hy.target, hloc⟩
        exact .inr ⟨g, hg, place, PagePlace.extends hgrows hmine, hat⟩
      · have hfile : d'.at? place = some (.file bytes) := Node.at?_eq_file.mpr (Disk.locate_holds hloc)
        have hkept := (hframe place bytes hlater).mpr hfile
        refine .inl ?_
        rw [Disk.node, hgrows.locate_found hloc (Node.at?_eq_file.mp hkept)]

/-! ### Whole runs -/

theorem trail_logged {rules : WalkRules} {p : Progress} {files : List Path} {o : Outcome Progress}
    (h : Walk.Trail rules Progress.disk plan.documentBound p files o) (hlog : p.log.Informs) :
    ∃ pages mid rest, plan.Publishes p.disk pages mid ∧ plan.Leftover mid o.state.disk rest ∧
      (o.halt = none → o.state.disk = mid) ∧
      o.state.written = p.written ++ pages.map Publication.target ∧
      o.state.log = { p.log with emitted := p.log.emitted ++ pages.map plan.writtenEvent } := by
  induction h with
  | done p halt =>
    exact ⟨[], p.disk, [], .nil _, .untouched (.refl _) (.refl _ _), fun _ => rfl, by simp, by simp⟩
  | failed _ ho =>
    obtain ⟨hwritten, rest, hrest⟩ := leftover_of_stopped ho
    refine ⟨[], _, rest, .nil _, hrest, fun hhalt => (nomatch hhalt), by simp [hwritten], ?_⟩
    simp [documentBound_stopped hlog ho]
  | @step file files p p' o _ ho _ ih =>
    obtain ⟨x, rfl, hname, hrendered, hwrite, hwritten, hreported⟩ := documentBound_written hlog ho
    have hinforms : p'.log.Informs := by
      rw [hreported]
      exact informs_reportedLog hlog x
    obtain ⟨pages, mid, rest, hpages, hrest, hreturned, hall, hevents⟩ := ih hinforms
    have hx : plan.Published p.disk p'.disk x := published_of_written hname hrendered hwrite
    refine ⟨x :: pages, mid, rest, .cons hx hpages, hrest, hreturned, ?_, ?_⟩
    · rw [hall, hwritten, List.append_assoc]
      rfl
    · rw [hevents, hreported, reportedLog]
      simp

theorem andThen_finish_log {o : Outcome Progress} (hlog : o.state.log.Informs) :
    (o.andThen finish).state.log =
      { o.state.log with emitted := o.state.log.emitted ++
          if o.halt = none then [completedEvent o.state.written.length] else [] } := by
  obtain ⟨p, halt⟩ := o
  cases halt with
  | none => exact hlog.emit_unbound rfl
  | some h => simp [Outcome.andThen]

/-- What a run reports, and how it agrees with the disk: `pages` are the pages that it has completely written by the
time the disk is `mid`, and `rest` is the file, if any, whose page it breaks before it stops. -/
structure Account (plan : RunPlan) (disk : Disk) (log : Log) (o : Outcome Progress) (pages : List Publication)
    (mid : Disk) (rest : List Path) : Prop where
  published : plan.Publishes disk pages mid
  leftover : plan.Leftover mid o.state.disk rest
  returned : o.halt = none → o.state.disk = mid
  written : o.state.written = pages.map Publication.target
  events : o.state.log.emitted = log.emitted ++ plan.startedEvent :: pages.map plan.writtenEvent ++
    if o.halt = none then [completedEvent pages.length] else []
  unbound : o.state.log.bound = []
  stands : ∀ before x after, pages = before ++ x :: after → ∃ bytes, x.text.toUtf8 = .ok bytes ∧
    (o.state.disk.node true x.target = .ok (.file bytes) ∨
      ∃ g ∈ after.map Publication.file ++ rest, ∃ place,
        plan.PageAt o.state.disk x.file place ∧ plan.PageAt o.state.disk g place)

/-- The log of a run agrees with the pages on the disk, whether it comes to its end or is stopped. -/
theorem run_accounts (plan : RunPlan) {disk : Disk} {log : Log} (hd : disk.WellFormed) (hout : plan.output.Plain)
    (hlog : log.Informs) : ∃ pages mid rest, Account plan disk log (plan.run disk log) pages mid rest := by
  obtain ⟨htrail, _⟩ :
      Walk.Trail plan.rules Progress.disk plan.documentBound (plan.start disk log) (plan.reached disk log) _ ∧ _ :=
    Walk.visit_trail (documentBound_keeps hout) (plan.start disk log) hd
  rw [run_eq]
  generalize Walk.visit plan.rules Progress.disk plan.documentBound plan.input (plan.start disk log) = o at htrail ⊢
  have hstart : (plan.start disk log).log = { log with emitted := log.emitted ++ [plan.startedEvent] } :=
    hlog.emit_unbound rfl
  have hinforms : (plan.start disk log).log.Informs := by
    rw [hstart]
    exact ⟨hlog.format, hlog.unbound⟩
  obtain ⟨pages, mid, rest, hpages, hrest, hreturned, hwritten, hevents⟩ := trail_logged htrail hinforms
  have hend : o.state.log.Informs := by
    rw [hevents]
    exact ⟨hinforms.format, hinforms.unbound⟩
  have hfinish := andThen_finish_log hend
  obtain ⟨hhalt, hdisk, hsame, _⟩ := andThen_finish o
  refine ⟨pages, mid, rest, hpages, ?_, ?_, ?_, ?_, ?_, ?_⟩
  · rw [hdisk]
    exact hrest
  · rw [hdisk, hhalt]
    exact hreturned
  · rw [hsame, hwritten]
    rfl
  · have hcount : o.state.written.length = pages.length := by simp [hwritten, start]
    rw [hfinish, hhalt, hcount, hevents, hstart]
    simp
  · rw [hfinish]
    exact hend.unbound
  · rw [hdisk]
    exact fun before x after hsplit => hpages.stands hrest hsplit

/-- A log of information as structured data, with nothing bound. -/
def informed : Log := ⟨some ⟨Level.info.rank, true⟩, [], [], []⟩

/-- A plan for pages that show the name of the module, one of which has a surrogate. -/
def halfPlan : RunPlan :=
  { barePlan with
    pageSuffix := ".html"
    renderer := fun m => .ok (if m.name = Text.ofString "d" then [CodePoint.ofNat 0xD800] else m.name) }

theorem run_accounts_half :
    twinTree.WellFormed ∧ halfPlan.output.Plain ∧ informed.Informs ∧
    (halfPlan.run twinTree informed).halt = some (.unencodable ⟨0, 1, 0xD800⟩) ∧
    (halfPlan.run twinTree informed).state.written = [Path.ofText "out/d/..html"] ∧
    ∃ pages mid rest, Account halfPlan twinTree informed (halfPlan.run twinTree informed) pages mid rest := by
  have hd : twinTree.WellFormed := by decide
  have hout : halfPlan.output.Plain := Path.plain_ofText _
  have hlog : informed.Informs := ⟨⟨true, rfl⟩, rfl⟩
  have hhalt : (halfPlan.run twinTree informed).halt = some (.unencodable ⟨0, 1, 0xD800⟩) := by cbv
  have hwritten : (halfPlan.run twinTree informed).state.written = [Path.ofText "out/d/..html"] := by cbv
  exact ⟨hd, hout, hlog, hhalt, hwritten, run_accounts halfPlan hd hout hlog⟩

end RunPlan

end ModuleDocs
