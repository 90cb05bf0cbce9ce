import ModuleDocs.Command.Arguments
import ModuleDocs.Console.Printer
import ModuleDocs.Run
import ModuleDocs.Settings.Load

/-!
# Commands

A command is a function of a command line, an environment and the files of a working directory. It leaves
files and a log behind and ends with lines to print, with the report of a failure, or with a reason that it
does not report.
-/

namespace ModuleDocs.Command

open Console

/-! ### Endings -/

/-- Why a command stops without a report. -/
inductive StopReason where
  | settings (f : SettingsFault)
  /-- What should be printed has a fault. -/
  | printing (e : Foreign)
  | halt (h : Halt)
  /-- A file with settings is not UTF-8. -/
  | undecodable (f : DecodeFault)
  /-- What should be printed cannot be encoded. -/
  | unprintable (f : EncodeFault)
  deriving Repr

namespace StopReason

/-- The advice about a text that cannot be printed. -/
def advice : String := "\n*** You may need to add PYTHONIOENCODING=utf-8 to your environment ***"

def message : StopReason → Text
  | settings f => f.message
  | printing e => e.text
  | halt h => h.message
  | undecodable f => Text.ofString f.message
  | unprintable f => f.message ++ Text.ofString advice

end StopReason

/-- How a command ends. -/
inductive Ending where
  /-- The command line is refused. -/
  | refused
  /-- The work is done, with lines to print. -/
  | done (output : List Text)
  /-- The work has failed, with lines that report it. -/
  | failed (report : List Text)
  /-- The command has stopped. -/
  | stopped (reason : StopReason)
  deriving Repr

namespace Ending

def code : Ending → Nat
  | refused => 2
  | done _ => 0
  | failed _ => 1
  | stopped _ => 1

end Ending

/-- What a command leaves behind. -/
structure Result where
  disk : Disk
  log : Log
  ending : Ending

/-- What a command is called with, apart from files. -/
structure Call where
  words : List Text
  environment : List (Text × Text)
  readers : SettingReaders
  printer : Printer

/-! ### Settings -/

/-- Whether the path that a text spells leads to a file that can be read. A slash at the end asks for a
directory. -/
def leadsToFile (disk : Disk) (t : Text) : Bool :=
  let last := t.getLast? == some Path.slash || t.reverse.take 2 == [Path.dot, Path.slash]
  match disk.read (Path.ofText t) with
  | .ok _ => !last
  | .error _ => false

def settingsText (disk : Disk) (p : Path) : Except StopReason Text :=
  match disk.read p with
  | .error f => .error (.halt (.system f p.text))
  | .ok bytes => (Text.ofUtf8 bytes).mapError .undecodable

/-- The text of a configuration. It is decoded piece by piece while it is read, so a character that the end of
the file cuts off is a piece of its own, with positions of its own. -/
def configurationText (disk : Disk) (p : Path) : Except StopReason Text :=
  (settingsText disk p).mapError fun r =>
    match r with
    | .undecodable f => .undecodable (if f.reason = .unexpectedEnd then { f with start := 0 } else f)
    | r => r

def variablesName : Text := ".env"

/-- The text of the file with variables, empty if there is none. -/
def variableText (disk : Disk) : Except StopReason Text :=
  let p := Path.ofText variablesName
  match disk.node true p with
  | .ok (.file _) => settingsText disk p
  | .ok _ => .ok []
  | .error f => if f.isAbsence then .ok [] else .error (.halt (.system f p.text))

/-- The settings of a call (`_load_settings`). -/
def settings (call : Call) (disk : Disk) (given : Given) : Except StopReason Settings := do
  let values ←
    match given.config with
    | none => pure given.values
    | some config =>
      let text ← configurationText disk (Path.ofText config)
      (Settings.withConfiguration call.readers text given.values).mapError .settings
  let vars ← variableText disk
  (Settings.load call.readers ⟨values, call.environment, vars⟩).mapError .settings

/-- The checker that the settings ask for (`_checker`). -/
def checker (s : Settings) : Checker := Checker.python ⟨s.includePrivate, s.attributeDocstrings⟩

def log (s : Settings) : Log :=
  (Log.unconfigured.configure s.logLevel s.jsonLogs).toOption.getD Log.unconfigured

/-! ### Reports -/

/-- The report of a failure (`_report`): its category and text, and its cause if it has one, marked up. -/
def report (f : Failure) : List Text :=
  ("[bold red]Error[/bold red] (" ++ Text.ofString f.category.name ++ "): " ++ f.text) ::
    f.cause.toList.map fun c => "  caused by: " ++ c.text

def shownLines (printer : Printer) (texts : List Text) : Except StopReason (List Text) := do
  let blocks ← (texts.mapM printer.text).mapError .printing
  return blocks.flatten

def failing (printer : Printer) (f : Failure) : Ending :=
  match shownLines printer (report f) with
  | .ok lines => .failed lines
  | .error r => .stopped r

def logFailure (log : Log) (f : Failure) : Log := log.emit .error "doc_generation_failed" f.entries

/-- The lines of a table, printed at once. -/
def printed (printer : Printer) (t : Table) : Except StopReason (List Text) := do
  let lines ← (printer.table t).mapError .printing
  let _ ← (Text.toUtf8 (lines.flatMap fun l => l ++ [CodePoint.ofChar '\n'])).mapError .unprintable
  return lines

/-! ### Writing pages -/

def grouped (digits : Text) : Text :=
  (digits.reverse.zipIdx.flatMap fun (c, i) =>
    if i ≠ 0 ∧ i % 3 = 0 then [CodePoint.ofChar ',', c] else [c]).reverse

def byteCount (n : Nat) : Text := grouped (Text.ofNat n) ++ " bytes"

def fileSize (disk : Disk) (p : Path) : Nat :=
  match disk.node true p with
  | .ok (.file content) => content.length
  | _ => 0

def pageTable (disk : Disk) (pages : List Path) : Table :=
  { title := "Generated pages"
    columns := [⟨"Page", .left⟩, ⟨"Size", .right⟩]
    rows := pages.map fun p => [p.text, byteCount (fileSize disk p)] }

/-- The line that closes the list of pages, marked up. -/
def summary (pages : List Path) (output : Path) : Text :=
  "[bold]" ++ Text.ofNat pages.length ++ " page(s) written to " ++ output.text ++ "[/bold]"

def pageLines (printer : Printer) (disk : Disk) (pages : List Path) (output : Path) :
    Except StopReason (List Text) := do
  let table ← printed printer (pageTable disk pages)
  let closing ← shownLines printer [summary pages output]
  return table ++ closing

def plan (s : Settings) (input output : Path) : RunPlan :=
  { input, output, rules := ⟨s.sourceSuffix, s.skipPatterns⟩, pageSuffix := s.outputSuffix, checker := checker s
    renderer := Renderer.standard }

/-- The ending with lines, or with the reason that there are none. -/
def ending (lines : Except StopReason (List Text)) : Ending :=
  match lines with
  | .ok lines => .done lines
  | .error r => .stopped r

/-- The command that writes pages (`generate`). -/
def generate (call : Call) (disk : Disk) (input output : Path) (given : Given) : Result :=
  match settings call disk given with
  | .error r => ⟨disk, Log.unconfigured, .stopped r⟩
  | .ok s =>
    let o := (plan s input output).run disk (log s)
    let disk := o.state.disk
    match o.halt with
    | none => ⟨disk, o.state.log, ending (pageLines call.printer disk o.state.written output)⟩
    | some (.failure f) => ⟨disk, logFailure o.state.log f, failing call.printer f⟩
    | some h => ⟨disk, o.state.log, .stopped (.halt h)⟩

/-! ### Showing a record -/

/-- The row of a field: name, type and the first line of the comment. -/
def fieldRow (f : Field) : List Text := [f.name, f.type, (Text.firstLine? f.comment).getD []]

def fieldTable (title : Text) (fields : List Field) : Table :=
  { title, columns := [⟨"Name", .left⟩, ⟨"Type", .left⟩, ⟨"Comment", .left⟩], rows := fields.map fieldRow }

def recordTables (name : Text) (r : Record) : List Table :=
  [fieldTable (name ++ ": Types") r.types, fieldTable (name ++ ": Values") r.values]

def recordLines (printer : Printer) (name : Text) (r : Record) : Except StopReason (List Text) :=
  ((recordTables name r).mapM (printed printer)).map List.flatten

def jsonLines (r : Record) : List Text :=
  Text.splitOn (CodePoint.ofChar '\n') (Text.ofString (Json.pretty 0 r.toValue))

/-- The command that shows a record (`inspect`). -/
def inspect (call : Call) (disk : Disk) (file : Path) (given : Given) (json : Bool) : Result :=
  match settings call disk given with
  | .error r => ⟨disk, Log.unconfigured, .stopped r⟩
  | .ok s =>
    match (extract disk (checker s) file file.stem).result with
    | .error (.failure f) => ⟨disk, logFailure (log s) f, failing call.printer f⟩
    | .error h => ⟨disk, log s, .stopped (.halt h)⟩
    | .ok (i, c) =>
      let r := Record.build i c
      ⟨disk, log s, ending (if json then .ok (jsonLines r) else recordLines call.printer file.stem r)⟩

/-! ### Commands -/

def versionLine : Text := "docmirror 0.1.0"

def usage : List Text :=
  ["Usage: docmirror [--version] generate INPUT_DIR OUTPUT_DIR [--config FILE] [--source-suffix TEXT]",
    "         [--output-suffix TEXT] [--include-private] [--log-level TEXT] [--json-logs]",
    "       docmirror inspect FILE_PATH [--config FILE] [--include-private] [--json]"].map Text.ofString

def configPresent (disk : Disk) (given : Given) : Bool := given.config.all (leadsToFile disk)

def run (call : Call) (disk : Disk) : Result :=
  let refused : Result := ⟨disk, Log.unconfigured, .refused⟩
  match Request.ofWords? call.words with
  | none => refused
  | some .version => ⟨disk, Log.unconfigured, .done [versionLine]⟩
  | some .help => ⟨disk, Log.unconfigured, .done usage⟩
  | some (.generate input output given) =>
    if configPresent disk given then generate call disk (Path.ofText input) (Path.ofText output) given
    else refused
  | some (.inspect file given json) =>
    if leadsToFile disk file && configPresent disk given then inspect call disk (Path.ofText file) given json
    else refused

end ModuleDocs.Command
