import ModuleDocs.Failure.Cause
import ModuleDocs.Path

/-!
# File trees

The files below a working directory, as a value: files with their bytes, directories with their entries and
symbolic links with their targets. Requests follow links, refuse names and paths that are too long, and fail
as `SystemFault` says. Rights can be withheld at a place, whether something stands there yet or not, and a file can
be too small for what is written to it. Every place is a file of its own (there are no hard links), only what a
request writes changes, and an open file that can be read at all can be read to its end.
-/

namespace ModuleDocs

/-- A file, a directory or a symbolic link. -/
inductive Node where
  | file (content : List UInt8)
  | dir (entries : List (Text × Node))
  | link (target : Text)
  deriving Repr

namespace Node

def get? : Node → List Text → Option Node
  | n, [] => some n
  | dir entries, name :: rest => (entries.lookup name).bind fun n => n.get? rest
  | _, _ :: _ => none

/-- Puts an entry into a list of entries: a name that is present keeps its place. -/
def putEntry (entries : List (Text × Node)) (name : Text) (n : Node) : List (Text × Node) :=
  if entries.any fun e => e.1 == name then
    entries.map fun e => if e.1 == name then (name, n) else e
  else entries ++ [(name, n)]

/-- The tree with a node put at a place; missing directories on the way are made. -/
def put (new : Node) : List Text → Node → Node
  | [], _ => new
  | name :: rest, dir entries =>
    dir (putEntry entries name (put new rest ((entries.lookup name).getD (dir []))))
  | name :: rest, _ => dir [(name, put new rest (dir []))]

def erase : List Text → Node → Node
  | [], _ => dir []
  | [name], dir entries => dir (entries.filter fun e => e.1 != name)
  | name :: rest, dir entries =>
    match entries.lookup name with
    | some n => dir (putEntry entries name (erase rest n))
    | none => dir entries
  | _ :: _, n => n

end Node

/-- What may be done at a place. -/
inductive Right where
  /-- To look up a name in a directory. -/
  | search
  /-- To read a file. -/
  | read
  /-- To write a file, or to make something in a directory. -/
  | write
  deriving Repr, DecidableEq

/-- What a file can hold. -/
structure Room where
  size : Nat
  /-- The fault of writing more. -/
  fault : SystemFault
  deriving Repr, DecidableEq

/-- What the system withholds. -/
structure Limits where
  /-- Rights, with the places where they are missing. -/
  withheld : List (Right × List Text) := []
  /-- The room of files that cannot hold everything, by their places. -/
  rooms : List (List Text × Room) := []
  deriving Repr, DecidableEq

/-- The files below the working directory. -/
structure Disk where
  root : Node
  /-- Paths of directories that cannot be listed. -/
  locked : List Text
  limits : Limits
  deriving Repr

/-- Where a path leads. -/
inductive Spot where
  /-- To a node at a place without links. -/
  | found (place : List Text) (node : Node)
  /-- To a name that a directory does not have. -/
  | vacant (directory : List Text) (name : Text)
  deriving Repr

namespace Disk

def empty : Disk := ⟨.dir [], [], {}⟩

def nameLimit : Nat := 255

/-- The length in bytes that a path cannot reach. -/
def pathLimit : Nat := 4096

def linkLimit : Nat := 40

def allows (d : Disk) (r : Right) (place : List Text) : Bool := !d.limits.withheld.contains (r, place)

/-- Follows the parts of a path from a place. The last part, if it is a link, is followed on demand. -/
def resolve (d : Disk) (follow : Bool) (links : Nat) (here : List Text) (parts : List Text) :
    Except SystemFault Spot :=
  match parts with
  | [] =>
    match d.root.get? here with
    | some n => .ok (.found here n)
    | none => .error .notFound
  | name :: rest =>
    match d.root.get? here with
    | none => .error .notFound
    | some (.file _) => .error .notDirectory
    | some (.link _) => .error .notDirectory
    | some (.dir entries) =>
      if !d.allows .search here then .error .denied
      else if name = Text.ofString ".." then d.resolve follow links here.dropLast rest
      else if nameLimit < name.fileNameLength then .error .nameTooLong
      else
        match entries.lookup name with
        | none => if rest.isEmpty then .ok (.vacant here name) else .error .notFound
        | some (.link target) =>
          if rest.isEmpty && !follow then .ok (.found (here ++ [name]) (.link target))
          else
            match links with
            | 0 => .error .linkLoop
            | links + 1 =>
              let path := Path.ofText target
              d.resolve follow links (if path.anchor = .none then here else []) (path.parts ++ rest)
        | some (.file content) =>
          if rest.isEmpty then .ok (.found (here ++ [name]) (.file content)) else .error .notDirectory
        | some (.dir _) => d.resolve follow links (here ++ [name]) rest
termination_by (links, parts.length)

def locate (d : Disk) (follow : Bool) (p : Path) : Except SystemFault Spot :=
  if pathLimit ≤ p.text.fileNameLength then .error .nameTooLong
  else d.resolve follow linkLimit [] p.parts

def node (d : Disk) (follow : Bool) (p : Path) : Except SystemFault Node :=
  match d.locate follow p with
  | .ok (.found _ n) => .ok n
  | .ok (.vacant _ _) => .error .notFound
  | .error f => .error f

/-- Whether a path leads to a directory. A path that leads nowhere or that nothing can have does not; one that is
too long or leads through a directory that may not be searched gives no answer. -/
def isDirectory (d : Disk) (p : Path) : Except SystemFault Bool :=
  if p.text.nameFault?.isSome then .ok false
  else
    match d.node true p with
    | .ok (.dir _) => .ok true
    | .ok _ => .ok false
    | .error f => if f.isAbsence then .ok false else .error f

/-- The names in a directory, in order. -/
def list (d : Disk) (p : Path) : Except SystemFault (List Text) :=
  if d.locked.contains p.text then .error .denied
  else
    match d.node true p with
    | .ok (.dir entries) => .ok ((entries.map Prod.fst).mergeSort fun a b => !Text.lt b a)
    | .ok _ => .error .notDirectory
    | .error f => .error f

def read (d : Disk) (p : Path) : Except SystemFault (List UInt8) :=
  match d.locate true p with
  | .ok (.found place (.file content)) => if d.allows .read place then .ok content else .error .denied
  | .ok (.found place (.dir _)) => .error (if d.allows .read place then .isDirectory else .denied)
  | .ok (.found _ (.link _)) => .error .linkLoop
  | .ok (.vacant _ _) => .error .notFound
  | .error f => .error f

def put (d : Disk) (place : List Text) (n : Node) : Disk := { d with root := Node.put n place d.root }

/-- Opens a file for writing, and gives its place: the file is emptied, or made if it does not exist. -/
def openFile (d : Disk) (p : Path) : Except SystemFault (Disk × List Text) :=
  match d.locate true p with
  | .ok (.found place (.file _)) =>
    if d.allows .write place then .ok (d.put place (.file []), place) else .error .denied
  | .ok (.found _ (.dir _)) => .error .isDirectory
  | .ok (.found _ (.link _)) => .error .linkLoop
  | .ok (.vacant place name) =>
    if d.allows .write place && d.allows .write (place ++ [name]) then
      .ok (d.put (place ++ [name]) (.file []), place ++ [name])
    else .error .denied
  | .error f => .error f

/-- How much of a content an open file holds, and the fault if that is not all. -/
def held (d : Disk) (place : List Text) (content : List UInt8) : List UInt8 × Option SystemFault :=
  match d.limits.rooms.lookup place with
  | none => (content, none)
  | some room =>
    if content.length ≤ room.size then (content, none) else (content.take room.size, some room.fault)

/-- Writes to an open file as much as it holds. -/
def fill (d : Disk) (place : List Text) (content : List UInt8) : Disk × Option SystemFault :=
  let (kept, fault) := d.held place content
  (d.put place (.file kept), fault)

def makeDirectory (d : Disk) (p : Path) : Except SystemFault Disk :=
  match d.locate false p with
  | .ok (.found _ _) => .error .alreadyExists
  | .ok (.vacant place name) =>
    if d.allows .write place then .ok (d.put (place ++ [name]) (.dir [])) else .error .denied
  | .error f => .error f

/-- A request that failed, with the path it was about. -/
abbrev Refusal := SystemFault × Path

/-- What remains of a failed attempt to make a directory: nothing if the directory is there. -/
def unlessPresent (d : Disk) (p : Path) (f : SystemFault) : Option Refusal :=
  match d.isDirectory p with
  | .ok true => none
  | .ok false => some (f, p)
  | .error g => some (g, p)

/-- Makes a directory and those above it, as far as they are missing. The directories that were made stay
when a later one cannot be made. -/
def makeDirectories (d : Disk) (p : Path) : (levels : Nat) → Disk × Option Refusal
  | 0 =>
    match d.makeDirectory p with
    | .ok d => (d, none)
    | .error .notFound => (d, some (.notFound, p))
    | .error f => (d, d.unlessPresent p f)
  | levels + 1 =>
    match d.makeDirectory p with
    | .ok d => (d, none)
    | .error .notFound =>
      match d.makeDirectories p.parent levels with
      | (d, some r) => (d, some r)
      | (d, none) =>
        match d.makeDirectory p with
        | .ok d => (d, none)
        | .error .notFound => (d, some (.notFound, p))
        | .error f => (d, d.unlessPresent p f)
    | .error f => (d, d.unlessPresent p f)

def remove (d : Disk) (p : Path) : Except SystemFault Disk :=
  match d.locate false p with
  | .ok (.found place _) => .ok { d with root := d.root.erase place }
  | .ok (.vacant _ _) => .error .notFound
  | .error f => .error f

mutual

/-- The places of all nodes below a node, directories marked by a slash at the end. -/
def below (mark : Text → Bool) (base : Text) : Node → List Text
  | .dir entries => belowEntries mark base entries
  | _ => []

def belowEntries (mark : Text → Bool) (base : Text) : List (Text × Node) → List Text
  | [] => []
  | (name, n) :: es =>
    let here := base ++ [Path.slash] ++ name
    let own :=
      match n with
      | .file _ => here
      | .dir _ => here ++ [Path.slash]
      | .link _ => if mark here then here ++ [Path.slash] else here
    (own :: below mark here n) ++ belowEntries mark base es

end

/-- The paths of everything below a directory, in order; none if there is no such directory. -/
def tree (d : Disk) (base : Text) : List Text :=
  match d.node true (Path.ofText base) with
  | .ok n =>
    let leadsToDirectory (t : Text) : Bool :=
      match d.isDirectory (Path.ofText t) with
      | .ok b => b
      | .error _ => false
    (below leadsToDirectory base n).mergeSort fun a b => !Text.lt b a
  | .error _ => []

end Disk

end ModuleDocs
