import ModuleDocs.Failure.Halt
import ModuleDocs.Glob
import ModuleDocs.Storage.Disk

/-!
# Walking a source tree

The source files below a directory, in the order of their paths, compared part by part. Links are not
followed, and names that match a pattern are skipped together with all that is below them. A directory is
listed when the walk reaches it, on the files as they are then: the walk is told how to act on the files it
finds, and that may change the tree.
-/

namespace ModuleDocs

/-- Which files are found. -/
structure WalkRules where
  /-- The suffix of source files. -/
  suffix : Text
  /-- The patterns of names that are skipped. -/
  skip : List Text
  deriving Repr, DecidableEq

namespace WalkRules

def skips (r : WalkRules) (name : Text) : Bool := r.skip.any fun p => (Glob.ofText p).matchesText name

end WalkRules

/-- A state, and what stops the activity there. -/
structure Outcome (σ : Type) where
  state : σ
  halt : Option Halt

namespace Outcome

def next {σ : Type} (s : σ) : Outcome σ := ⟨s, none⟩

/-- Goes on with a second activity unless the first was stopped. -/
def andThen {σ : Type} (o : Outcome σ) (f : σ → Outcome σ) : Outcome σ :=
  match o.halt with
  | none => f o.state
  | some _ => o

end Outcome

namespace Walk

def listingFailure (p : Path) (f : SystemFault) : Failure :=
  ((Failure.of .fileSystem ("Unable to read directory `" ++ p.text ++ "`: " ++ f.text)
    (some (.system f p.text))).about p.text).during "walk"

def rootFailure (p : Path) : Failure :=
  ((Failure.of .fileSystem
    ("Input directory `" ++ p.text ++ "` does not exist or is not a directory") none).about p.text).during "walk"

variable {σ : Type}

/-- Visits one entry of a directory: enters a directory, acts on a source file. An entry that cannot be
examined stops the visit. -/
def visitEntry (rules : WalkRules) (disk : σ → Disk) (act enter : Path → σ → Outcome σ) (dir : Path)
    (name : Text) (s : σ) : Outcome σ :=
  let p := dir.child name
  if rules.skips name then .next s
  else
    match (disk s).node false p with
    | .ok (.dir _) => enter p s
    | .ok (.file _) => if p.suffix = rules.suffix then act p s else .next s
    | .ok (.link _) => .next s
    | .error f => if f.isAbsence then .next s else ⟨s, some (.system f p.text)⟩

def visitEntries (rules : WalkRules) (disk : σ → Disk) (act enter : Path → σ → Outcome σ) (dir : Path) :
    List Text → σ → Outcome σ
  | [], s => .next s
  | name :: names, s =>
    (visitEntry rules disk act enter dir name s).andThen (visitEntries rules disk act enter dir names)

/-- Visits a directory (`_walk_dir`). The number bounds the levels below: a path with more parts is too long to
be listed. -/
def visitDirectory (rules : WalkRules) (disk : σ → Disk) (act : Path → σ → Outcome σ) :
    (levels : Nat) → Path → σ → Outcome σ
  | 0, p, s => ⟨s, some (.failure (listingFailure p .nameTooLong))⟩
  | levels + 1, p, s =>
    match (disk s).list p with
    | .error f => ⟨s, some (.failure (listingFailure p f))⟩
    | .ok names => visitEntries rules disk act (visitDirectory rules disk act levels) p names s

/-- Walks the tree below a directory (`walk`) and acts on every source file. -/
def visit (rules : WalkRules) (disk : σ → Disk) (act : Path → σ → Outcome σ) (root : Path) (s : σ) :
    Outcome σ :=
  match (disk s).isDirectory root with
  | .error f => ⟨s, some (.system f root.text)⟩
  | .ok false => ⟨s, some (.failure (rootFailure root))⟩
  | .ok true => visitDirectory rules disk act Disk.pathLimit root s

/-- The source files below a directory on files that stay as they are. -/
def files (rules : WalkRules) (disk : Disk) (root : Path) : Outcome (List Path) :=
  visit rules (fun _ => disk) (fun p found => .next (found ++ [p])) root []

end Walk

end ModuleDocs
