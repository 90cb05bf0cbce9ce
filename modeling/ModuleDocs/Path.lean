import ModuleDocs.Text.Blank
import ModuleDocs.Text.Quoted

/-!
# Paths

A path is a sequence of parts, after an anchor if it is absolute. Empty parts and single dots are dropped
when a path is read; double dots stay. Exactly two slashes at the start are an anchor of their own.
-/

namespace ModuleDocs

/-- What a path starts from. -/
inductive Anchor where
  /-- A relative path. -/
  | none
  /-- An absolute path. -/
  | root
  /-- A path after two slashes. -/
  | doubleRoot
  deriving Repr, DecidableEq

namespace Anchor

def text : Anchor → Text
  | none => []
  | root => "/"
  | doubleRoot => "//"

def ofSlashes : Nat → Anchor
  | 0 => none
  | 2 => doubleRoot
  | _ => root

end Anchor

/-- A path. -/
structure Path where
  anchor : Anchor
  parts : List Text
  deriving Repr, DecidableEq

/-- Why a path has no form with another suffix. -/
inductive PathFault where
  /-- The path has no last part. -/
  | emptyName (path : Text)
  /-- The new suffix has a slash, or does not start with a dot, or is a single dot. -/
  | badSuffix (suffix : Text)
  deriving Repr, DecidableEq

namespace PathFault

def message : PathFault → Text
  | emptyName p => "PosixPath(" ++ Text.ofString p.quoted ++ ") has an empty name"
  | badSuffix s => "Invalid suffix " ++ Text.ofString s.quoted

end PathFault

namespace Path

def slash : CodePoint := CodePoint.ofChar '/'

def dot : CodePoint := CodePoint.ofChar '.'

def isVoid (part : Text) : Bool := part.isEmpty || part == [dot]

def ofText (t : Text) : Path :=
  ⟨.ofSlashes (t.takeWhile (· == slash)).length, (Text.splitOn slash t).filter fun p => !isVoid p⟩

/-- The path as it is written; a relative path without parts is a dot. -/
def text (p : Path) : Text :=
  if p.anchor = .none ∧ p.parts = [] then [dot] else p.anchor.text ++ Text.join [slash] p.parts

/-- The path with another one after it, whose void parts are dropped; an absolute path takes its place. -/
def append (p q : Path) : Path :=
  let parts := q.parts.filter fun part => !isVoid part
  match q.anchor with
  | .none => ⟨p.anchor, p.parts ++ parts⟩
  | _ => ⟨q.anchor, parts⟩

def child (p : Path) (name : Text) : Path := { p with parts := p.parts ++ [name] }

def parent (p : Path) : Path := { p with parts := p.parts.dropLast }

/-- The last part, empty if there is none. -/
def name (p : Path) : Text := p.parts.getLast?.getD []

/-- A name cut before its suffix: before the last dot, unless that is at the start or at the end. -/
def splitSuffix (name : Text) : Text × Text :=
  let tail := (name.reverse.takeWhile (· != dot)).reverse
  let stem := name.take (name.length - tail.length - 1)
  if name.contains dot && !tail.isEmpty && !stem.isEmpty then (stem, dot :: tail) else (name, [])

def suffix (p : Path) : Text := (splitSuffix p.name).2

def stem (p : Path) : Text := (splitSuffix p.name).1

/-- Whether a text can be the suffix of a path: it is empty, or a dot with something after it. -/
def isSuffix (s : Text) : Bool :=
  !s.contains slash && (s.isEmpty || (s.head? == some dot && s.length != 1))

def withSuffix (p : Path) (suffix : Text) : Except PathFault Path :=
  if !isSuffix suffix then .error (.badSuffix suffix)
  else if p.name.isEmpty then .error (.emptyName p.text)
  else .ok { p with parts := p.parts.dropLast ++ [p.stem ++ suffix] }

/-- The parts, with the anchor as the first if there is one. -/
def components (p : Path) : List Text :=
  if p.anchor = .none then p.parts else p.anchor.text :: p.parts

end Path

end ModuleDocs
