import ModuleDocs.Command.Basic

/-!
# The program

Reads the files that a command line names, runs its command on them, writes the files that the command
changed, and prints its lines.
-/

namespace ModuleDocs.Program

/-- The places that a command line can name, as texts of paths. -/
def named (words : List String) : List String :=
  ".env" :: words.filter fun w => !w.startsWith "-"

def place (path : String) : List Text :=
  (Path.ofText path).parts.foldl
    (fun here name => if name = Text.ofString ".." then here.dropLast else here ++ [name]) []

/-- The paths above a path, the outermost first, and the path itself. -/
def upTo (path : String) : List Path :=
  let p := Path.ofText path
  (List.range p.parts.length).map fun i => { p with parts := p.parts.take (i + 1) }

/-- Reads a file, or a directory with all that is in it. Directories that cannot be listed are noted. -/
partial def readNode (path : String) : StateT (List Text) IO (Option Node) := do
  let here := (← IO.currentDir) / path
  if ← here.isDir then
    try
      let entries ← here.readDir
      let nodes ← entries.toList.mapM fun e => do
        return (Text.ofString e.fileName, ← readNode (path ++ "/" ++ e.fileName))
      return some (.dir (nodes.filterMap fun (name, n) => n.map fun n => (name, n)))
    catch _ =>
      modify fun locked => (Path.ofText path).text :: locked
      return some (.dir [])
  else
    try
      let content ← IO.FS.readBinFile path
      return some (.file content.toList)
    catch _ => return none

/-- Reads what a path leads to into a file tree. A file on the way is read too. -/
def readInto (disk : Disk) (path : String) : IO Disk := do
  let mut disk := disk
  for above in (upTo path).dropLast do
    let text := above.text.toStringLossy
    if ← ((← IO.currentDir) / text).isDir then continue
    if let (some n, _) ← (readNode text).run [] then disk := disk.put (place text) n
  let (node, locked) ← (readNode path).run []
  match node with
  | some n => return { disk.put (place path) n with locked := disk.locked ++ locked }
  | none => return disk

/-- Writes what has changed from one node to another one. -/
partial def writeNode (path : String) (old : Option Node) : Node → IO Unit
  | .file content => do
    match old with
    | some (.file before) => if before = content then return ()
    | _ => pure ()
    IO.FS.writeBinFile path content.toByteArray
  | .dir entries => do
    IO.FS.createDirAll path
    for (name, n) in entries do
      writeNode (path ++ "/" ++ name.toStringLossy) (old.bind fun o => o.get? [name]) n
  | .link _ => return ()

def environment : IO (List (Text × Text)) := do
  let names := Setting.all.flatMap fun s => [s.variableName.toUpper, s.variableName]
  let found ← names.mapM fun name => do
    return (← IO.getEnv name.toStringLossy).map fun value => (name, Text.ofString value)
  return found.filterMap id

def consoleWidth : IO Nat := do
  return ((← IO.getEnv "COLUMNS").bind String.toNat?).getD 80

def eventLine (log : Log) (e : LogEvent) : String :=
  match log.format with
  | some ⟨_, false⟩ => e.line.toStringLossy
  | _ => Json.compact e.toValue

def run (words : List String) : IO UInt32 := do
  let disk ← (named words).foldlM readInto Disk.empty
  let call : Command.Call :=
    ⟨words.map Text.ofString, ← environment, .standard, Console.printer .empty (← consoleWidth)⟩
  let result := Command.run call disk
  for path in named words do
    match result.disk.root.get? (place path) with
    | some n => writeNode path (disk.root.get? (place path)) n
    | none => pure ()
  for e in result.log.emitted do
    IO.eprintln (eventLine result.log e)
  match result.ending with
  | .refused => Command.usage.forM fun l => IO.eprintln l.toStringLossy
  | .done output => output.forM fun l => IO.println l.toStringLossy
  | .failed report => report.forM fun l => IO.eprintln l.toStringLossy
  | .stopped reason => IO.eprintln reason.message.toStringLossy
  return result.ending.code.toUInt32

end ModuleDocs.Program

def main (words : List String) : IO UInt32 := ModuleDocs.Program.run words
