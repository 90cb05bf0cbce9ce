import ModuleDocs.Extract
import ModuleDocs.Log
import ModuleDocs.Storage.Target
import ModuleDocs.Template.Reader
import ModuleDocs.Walk

/-!
# Runs

A run walks the input directory and writes a page for every source file, one after the other. The first
failure stops it; pages that are written stay.
-/

namespace ModuleDocs

/-! ### Renderers -/

/-- How modules become pages. The error is a report. -/
abbrev Renderer := Module → Except Text Text

namespace Renderer

def standard : Renderer := fun m => .ok (Page.render m)

def templateName : Text := "module.html"

def loadFailure (directory : Path) (report : Text) : Failure :=
  ((Failure.of .render ("Unable to load template `" ++ templateName ++ "`: " ++ report)
    (some (.report report))).about (directory.child templateName).text).during "render"

/-- The renderer with the template of a directory (`ModuleRenderer`). -/
def ofDirectory (disk : Disk) (directory : Path) : Except Failure Renderer :=
  let path := directory.child templateName
  match (disk.read path).toOption.map Text.ofUtf8 with
  | some (.ok t) =>
    match Template.ofText t with
    | .ok template => .ok template.render
    | .error report => .error (loadFailure directory report)
  | some (.error f) => .error (loadFailure directory f.message)
  | none =>
    .error <| loadFailure directory <|
      Text.ofString templateName.quoted ++ " not found in search path: " ++ Text.ofString directory.text.quoted

/-- The page of a module (`render`), or the failure of its template. -/
def page (render : Renderer) (m : Module) : Except Failure Text :=
  (render m).mapError fun report =>
    ((Failure.of .render ("Unable to render documentation for `" ++ m.name ++ "`: " ++ report)
      (some (.report report))).inModule m.name).during "render"

end Renderer

/-! ### Runs -/

/-- What a run is asked to do. -/
structure RunPlan where
  input : Path
  output : Path
  rules : WalkRules
  /-- The suffix of pages. -/
  pageSuffix : Text
  checker : Checker
  renderer : Renderer

/-- How far a run has come. -/
structure Progress where
  disk : Disk
  log : Log
  /-- The pages that are written, in order. -/
  written : List Path
  /-- The modules that the checker was asked about, with their sources, in order. -/
  asked : List (Text × Text)

namespace RunPlan

def relative (plan : RunPlan) (file : Path) : Path := ⟨.none, file.parts.drop plan.input.parts.length⟩

/-- The page of a file, written: from the extracted interface and comments on. -/
def publish (plan : RunPlan) (file : Path) (name : Text) (i : Interface) (c : Comments) (p : Progress) :
    Outcome Progress :=
  let m : Module := ⟨name, Record.build i c⟩
  let p := { p with
    log := p.log.emit .debug "doc_record_built"
      [(Text.ofString "module", .str name), (Text.ofString "record", m.record.toValue)] }
  match plan.renderer.page m with
  | .error f => ⟨p, some (.failure (f.about file.text))⟩
  | .ok text =>
    match writePage p.disk plan.output (plan.relative file) plan.pageSuffix text with
    | (disk, .error h) => ⟨{ p with disk }, some h⟩
    | (disk, .ok target) =>
      .next { p with
        disk
        written := p.written ++ [target]
        log := p.log.emit .info "doc_written"
          [(Text.ofString "module", .str name), (Text.ofString "output", .str target.text),
            (Text.ofString "size", .ofNat text.length)] }

def document (plan : RunPlan) (file : Path) (p : Progress) : Outcome Progress :=
  match moduleName (plan.relative file) with
  | .error h => ⟨p, some h⟩
  | .ok name =>
    let e := extract p.disk plan.checker file name
    let p := { p with asked := p.asked ++ e.asked.toList }
    match e.result with
    | .error h => ⟨p, some h⟩
    | .ok (i, c) => plan.publish file name i c p

/-- Documents one file, with its path bound in the log meanwhile. -/
def documentBound (plan : RunPlan) (file : Path) (p : Progress) : Outcome Progress :=
  let source := [(Text.ofString "source", Value.str (plan.relative file).text)]
  let o := plan.document file { p with log := p.log.enter source }
  { o with state := { o.state with log := o.state.log.leave } }

/-- A run over all files (`generate_for_path`). -/
def run (plan : RunPlan) (disk : Disk) (log : Log) : Outcome Progress :=
  let started := log.emit .info "doc_walk_started"
    [(Text.ofString "input_root", .str plan.input.text), (Text.ofString "output_root", .str plan.output.text)]
  (Walk.visit plan.rules Progress.disk plan.documentBound plan.input ⟨disk, started, [], []⟩).andThen fun p =>
    .next { p with
      log := p.log.emit .info "doc_walk_completed" [(Text.ofString "files", .ofNat p.written.length)] }

end RunPlan

end ModuleDocs
