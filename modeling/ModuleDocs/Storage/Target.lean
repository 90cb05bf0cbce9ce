import ModuleDocs.Naming
import ModuleDocs.Storage.Disk

/-!
# Writing pages

A page is written to its place below the output directory; directories on the way are made. The file is
emptied before the text is encoded, so a text without encoding leaves an empty file, and a text that the file cannot
hold leaves the start of it.
-/

namespace ModuleDocs

def folderFailure (folder : Path) (r : Disk.Refusal) : Failure :=
  ((Failure.of .fileSystem ("Unable to create output directory `" ++ folder.text ++ "`: " ++ r.1.text)
    (some (.system r.1 r.2.text))).about folder.text).during "write"

def pageFailure (target : Path) (f : SystemFault) (cause : Cause) : Failure :=
  ((Failure.of .fileSystem ("Unable to open output file `" ++ target.text ++ "`: " ++ f.text)
    (some cause)).about target.text).during "write"

/-- Makes the directory of a page and opens the page: the files after the attempt, and the place of the page or what
prevented it. -/
def openPage (disk : Disk) (target : Path) : Disk × Except Halt (List Text) :=
  let folder := target.parent
  match folder.text.nameFault? with
  | some f => (disk, .error (.name f))
  | none =>
    match disk.makeDirectories folder folder.parts.length with
    | (disk, some r) => (disk, .error (.failure (folderFailure folder r)))
    | (disk, none) =>
      match target.text.nameFault? with
      | some f => (disk, .error (.name f))
      | none =>
        match disk.openFile target with
        | .error f => (disk, .error (.failure (pageFailure target f (.system f target.text))))
        | .ok (opened, place) => (opened, .ok place)

/-- Writes the text of a page that is open. The cause of a failure names no path. -/
def fillPage (disk : Disk) (target : Path) (place : List Text) (text : Text) : Disk × Except Halt Path :=
  match Text.toUtf8 text with
  | .error f => (disk, .error (.unencodable f))
  | .ok bytes =>
    match disk.fill place bytes with
    | (disk, none) => (disk, .ok target)
    | (disk, some f) =>
      (disk, .error <| .failure <|
        pageFailure target f (.systemDetails [.ofNat f.number, .ofString f.text]))

/-- Writes a page (`write`): the files after the attempt, and the path of the page or what prevented it. -/
def writePage (disk : Disk) (output source : Path) (suffix text : Text) : Disk × Except Halt Path :=
  match pagePath output source suffix with
  | .error f => (disk, .error (.path f))
  | .ok target =>
    match openPage disk target with
    | (disk, .error h) => (disk, .error h)
    | (opened, .ok place) => fillPage opened target place text

end ModuleDocs
