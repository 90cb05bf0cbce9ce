import ModuleDocs.Proofs.Walk.Trail
import ModuleDocs.Run

/-!
# Documenting one file

What a run does with one file: it asks the checker, renders the page and writes it. What is on the disk changes
only when the page is written. A run does this with one file after the other, between two events.
-/

namespace ModuleDocs

namespace RunPlan

/-! ### The page of a file -/

theorem relative_below (plan : RunPlan) (rel : List Text) : plan.relative (plan.input.below rel) = ⟨.none, rel⟩ := by
  simp [relative, Path.below]

def target (plan : RunPlan) (file : Path) : Except PathFault Path :=
  pagePath plan.output (plan.relative file) plan.pageSuffix

/-- What the checker is asked about a file: the name and the source of its module. -/
def question? (plan : RunPlan) (d : Disk) (file : Path) : Option (Text × Text) :=
  match moduleName (plan.relative file) with
  | .error _ => none
  | .ok name => (extract d plan.checker file name).asked

/-- The text of the page of a file, or what prevents it before anything is written. -/
def rendered (plan : RunPlan) (d : Disk) (file : Path) : Except Halt Text :=
  match moduleName (plan.relative file) with
  | .error h => .error h
  | .ok name =>
    match (extract d plan.checker file name).result with
    | .error h => .error h
    | .ok (i, c) => (plan.renderer.page ⟨name, Record.build i c⟩).mapError fun f => .failure (f.about file.text)

def pageOf (plan : RunPlan) (d : Disk) (file : Path) : Option (Path × List UInt8) :=
  match plan.target file, plan.rendered d file with
  | .ok target, .ok text => (Text.toUtf8 text).toOption.map fun bytes => (target, bytes)
  | _, _ => none

def PageAt (plan : RunPlan) (d : Disk) (file : Path) (place : List Text) : Prop :=
  PagePlace d plan.output (plan.relative file) plan.pageSuffix place

/-- What becomes of a run when a file is documented. -/
inductive Documented (plan : RunPlan) (file : Path) (p : Progress) : Outcome Progress → Prop where
  /-- The file gives no page. -/
  | unrendered {p' : Progress} {h : Halt} : plan.rendered p.disk file = .error h → p'.disk = p.disk →
      p'.written = p.written → p'.asked = p.asked ++ (plan.question? p.disk file).toList →
      Documented plan file p ⟨p', some h⟩
  /-- The page cannot be written. -/
  | unwritten {p' : Progress} {text : Text} {h : Halt} : plan.rendered p.disk file = .ok text →
      writePage p.disk plan.output (plan.relative file) plan.pageSuffix text = (p'.disk, .error h) →
      p'.written = p.written → p'.asked = p.asked ++ (plan.question? p.disk file).toList →
      Documented plan file p ⟨p', some h⟩
  /-- The page is written. -/
  | written {p' : Progress} {text : Text} {target : Path} : plan.rendered p.disk file = .ok text →
      writePage p.disk plan.output (plan.relative file) plan.pageSuffix text = (p'.disk, .ok target) →
      p'.written = p.written ++ [target] → p'.asked = p.asked ++ (plan.question? p.disk file).toList →
      Documented plan file p (.next p')

/-- The log does not matter. -/
theorem Documented.withLog {plan : RunPlan} {file : Path} {p p' : Progress} {log : Log} {halt : Option Halt}
    (h : Documented plan file { p with log } ⟨p', halt⟩) (log' : Log) :
    Documented plan file p ⟨{ p' with log := log' }, halt⟩ := by
  cases h with
  | unrendered hrendered hdisk hwritten hasked => exact .unrendered hrendered hdisk hwritten hasked
  | unwritten hrendered hwrite hwritten hasked => exact .unwritten hrendered hwrite hwritten hasked
  | written hrendered hwrite hwritten hasked => exact .written hrendered hwrite hwritten hasked

theorem publish_documented (plan : RunPlan) (file : Path) (name : Text) (i : Interface) (c : Comments)
    {p q : Progress} (hdisk : q.disk = p.disk) (hwritten : q.written = p.written)
    (hasked : q.asked = p.asked ++ (plan.question? p.disk file).toList)
    (hrendered : plan.rendered p.disk file =
      (plan.renderer.page ⟨name, Record.build i c⟩).mapError fun f => .failure (f.about file.text)) :
    Documented plan file p (plan.publish file name i c q) := by
  unfold publish
  dsimp only
  cases hpage : plan.renderer.page ⟨name, Record.build i c⟩ with
  | error f =>
    rw [hpage] at hrendered
    exact .unrendered hrendered hdisk hwritten hasked
  | ok text =>
    rw [hpage] at hrendered
    dsimp only
    rw [hdisk]
    cases hwrite : writePage p.disk plan.output (plan.relative file) plan.pageSuffix text with
    | mk d r =>
      cases r with
      | error h => exact .unwritten hrendered hwrite hwritten hasked
      | ok target => exact .written hrendered hwrite (congrArg (· ++ [target]) hwritten) hasked

theorem document_documented (plan : RunPlan) (file : Path) (p : Progress) :
    Documented plan file p (plan.document file p) := by
  unfold document
  cases hname : moduleName (plan.relative file) with
  | error h =>
    refine .unrendered ?_ rfl rfl ?_
    · rw [rendered, hname]
    · rw [question?, hname]
      exact (List.append_nil _).symm
  | ok name =>
    have hquestion : plan.question? p.disk file = (extract p.disk plan.checker file name).asked := by
      rw [question?, hname]
    dsimp only
    cases hresult : (extract p.disk plan.checker file name).result with
    | error f =>
      refine .unrendered ?_ rfl rfl ?_
      · rw [rendered, hname]
        simp only [hresult]
      · rw [hquestion]
    | ok ic =>
      refine publish_documented plan file name ic.1 ic.2 rfl rfl ?_ ?_
      · rw [hquestion]
      · rw [rendered, hname]
        simp only [hresult]

theorem documentBound_documented (plan : RunPlan) (file : Path) (p : Progress) :
    Documented plan file p (plan.documentBound file p) :=
  Documented.withLog (document_documented plan file _) _

/-! ### What one file changes -/

variable {plan : RunPlan} {file : Path} {p : Progress} {o : Outcome Progress}

theorem writePage_pageWriting {d d' : Disk} {output source : Path} {suffix text : Text} {r : Except Halt Path}
    (h : writePage d output source suffix text = (d', r)) : PageWriting d output source suffix text (d', r) :=
  h ▸ writePage_cases d output source suffix text

theorem Documented.extends (h : Documented plan file p o) : p.disk.Extends o.state.disk := by
  cases h with
  | unrendered _ hdisk _ _ => exact hdisk ▸ .refl _
  | unwritten _ hwrite _ _ => exact (writePage_pageWriting hwrite).extends
  | written _ hwrite _ _ => exact (writePage_pageWriting hwrite).extends

theorem Documented.wellFormed (h : Documented plan file p o) (hd : p.disk.WellFormed) (hout : plan.output.Plain)
    (hfile : ∀ part ∈ (plan.relative file).parts, Path.slash ∉ part) : o.state.disk.WellFormed := by
  cases h with
  | unrendered _ hdisk _ _ => exact hdisk ▸ hd
  | @unwritten p' text h _ hwrite _ _ =>
    have hwf := writePage_wellFormed hd hout hfile plan.pageSuffix text
    rw [hwrite] at hwf
    exact hwf
  | @written p' text target _ hwrite _ _ =>
    have hwf := writePage_wellFormed hd hout hfile plan.pageSuffix text
    rw [hwrite] at hwf
    exact hwf

theorem documentBound_wellFormed (hout : plan.output.Plain) {rel : List Text}
    (hrel : ∀ x ∈ rel, Path.isName x = true) (hp : p.disk.WellFormed) :
    (plan.documentBound (plan.input.below rel) p).state.disk.WellFormed := by
  refine (documentBound_documented plan _ p).wellFormed hp hout ?_
  rw [relative_below]
  intro part hpart
  exact Path.isPart_not_slash (Path.isName_isPart (hrel part hpart))

/-- Documenting files below the input directory keeps the tree well-formed. -/
theorem documentBound_keeps (hout : plan.output.Plain) :
    Walk.Keeps Progress.disk plan.documentBound plan.input fun p => p.disk.WellFormed :=
  ⟨fun _ h => h, fun _ hrel _ hp => documentBound_wellFormed hout hrel hp⟩

/-- The files are as before, except for the page of a file that is rendered. -/
theorem Documented.keepsFiles (h : Documented plan file p o) :
    p.disk.KeepsFiles o.state.disk fun place =>
      (∃ text, plan.rendered p.disk file = .ok text) ∧ plan.PageAt o.state.disk file place := by
  cases h with
  | unrendered _ hdisk _ _ => exact hdisk ▸ .refl _ _
  | unwritten hrendered hwrite _ _ =>
    exact (writePage_pageWriting hwrite).keepsFiles.mono fun place hplace => ⟨⟨_, hrendered⟩, hplace⟩
  | written hrendered hwrite _ _ =>
    exact (writePage_pageWriting hwrite).keepsFiles.mono fun place hplace => ⟨⟨_, hrendered⟩, hplace⟩

/-- A file that gives a page was asked about. -/
theorem question?_of_rendered {d : Disk} {text : Text} (h : plan.rendered d file = .ok text) :
    ∃ q, plan.question? d file = some q := by
  unfold rendered at h
  unfold question?
  cases hname : moduleName (plan.relative file) with
  | error h' => rw [hname] at h; cases h
  | ok name =>
    rw [hname] at h
    dsimp only at h ⊢
    unfold extract at h ⊢
    cases hread : readSource d file with
    | error f => rw [hread] at h; cases h
    | ok source => exact ⟨(name, source), rfl⟩

/-- A page that is written is the page of the file, at its path. -/
theorem pageOf_of_written {d d' : Disk} {text : Text} {target : Path} (hrendered : plan.rendered d file = .ok text)
    (hwrite : writePage d plan.output (plan.relative file) plan.pageSuffix text = (d', .ok target)) :
    ∃ bytes place, plan.pageOf d file = some (target, bytes) ∧ plan.target file = .ok target ∧
      d'.locate true target = .ok (.found place (.file bytes)) := by
  have hpage := writePage_pageWriting hwrite
  cases hpage with
  | @written _ _ place bytes _ _ htarget _ _ hbytes _ hloc =>
    refine ⟨bytes, place, ?_, htarget, hloc⟩
    rw [pageOf, show plan.target file = .ok target from htarget, hrendered]
    simp only [hbytes]
    rfl

/-! ### The start and the end of a run -/

def start (plan : RunPlan) (disk : Disk) (log : Log) : Progress :=
  ⟨disk, log.emit .info "doc_walk_started"
    [(Text.ofString "input_root", .str plan.input.text), (Text.ofString "output_root", .str plan.output.text)],
    [], []⟩

/-- The end of a run that is not stopped. -/
def finish (p : Progress) : Outcome Progress :=
  .next { p with log := p.log.emit .info "doc_walk_completed" [(Text.ofString "files", .ofNat p.written.length)] }

theorem run_eq (plan : RunPlan) (disk : Disk) (log : Log) :
    plan.run disk log =
      (Walk.visit plan.rules Progress.disk plan.documentBound plan.input (plan.start disk log)).andThen finish := rfl

theorem andThen_finish (o : Outcome Progress) :
    (o.andThen finish).halt = o.halt ∧ (o.andThen finish).state.disk = o.state.disk ∧
      (o.andThen finish).state.written = o.state.written ∧ (o.andThen finish).state.asked = o.state.asked := by
  cases o with
  | mk p halt =>
    cases halt with
    | none => exact ⟨rfl, rfl, rfl, rfl⟩
    | some h => exact ⟨rfl, rfl, rfl, rfl⟩

end RunPlan

end ModuleDocs
