import Mathlib
import ModuleDocs.Proofs.Storage.Growth
import ModuleDocs.Proofs.Text.Encoding

/-!
# Writes that fail

A page that cannot be written leaves the files as they were, unless it has been opened. It is emptied then, so a text
without encoding costs the page that was there, or leaves an empty one where none was; and a text that the page cannot
hold leaves the start of itself.
-/

namespace ModuleDocs

namespace Disk

/-- The two trees have the same files with the same contents: none is lost, changed or new. -/
def SameFiles (d d' : Disk) : Prop :=
  ∀ place c, d'.at? place = some (.file c) ↔ d.at? place = some (.file c)

theorem sameFiles_iff {d d' : Disk} : d.SameFiles d' ↔ d.KeepsFiles d' fun _ => False :=
  ⟨fun h place c _ => h place c, fun h place c => h place c id⟩

/-- When files stay apart from one, all files stay exactly if that one had before what it has afterwards. -/
theorem KeepsFiles.sameFiles_iff_kept {d d' : Disk} {place : List Text} {kept : List UInt8}
    (hkeep : d.KeepsFiles d' (· = place)) (hkept : d'.at? place = some (.file kept)) :
    d.SameFiles d' ↔ d.at? place = some (.file kept) := by
  constructor
  · intro hsame
    exact (hsame place kept).mp hkept
  · intro hbefore q c
    by_cases hq : q = place
    · subst hq
      rw [hkept, hbefore]
    · exact hkeep q c hq

end Disk

/-! ### What a failed write leaves -/

/-- What goes wrong with a page that is open, and what the page holds afterwards. -/
inductive Spoiling (d : Disk) (text : Text) (target : Path) (place : List Text) : List UInt8 → Halt → Prop where
  /-- The text has no encoding, and the page is empty. -/
  | unencodable {fault : EncodeFault} : text.toUtf8 = .error fault →
      Spoiling d text target place [] (.unencodable fault)
  /-- The page cannot hold the text, and has the start of it. -/
  | full {bytes : List UInt8} {n : Nat} {f : SystemFault} : text.toUtf8 = .ok bytes → n < bytes.length →
      d.held place bytes = (bytes.take n, some f) →
      Spoiling d text target place (bytes.take n) (.failure (fillFailure target f))

/-- The page was open when the write failed. -/
def Halt.AfterOpening (h : Halt) : Prop :=
  (∃ fault, h = .unencodable fault) ∨ ∃ target f, h = .failure (fillFailure target f)

/-- What a failed write leaves: the page is the only file that it can cost, and it does so exactly if the page was open
and had something else in it than it is left with. -/
structure FailedWrite (d d' : Disk) (output source : Path) (suffix text : Text) (h : Halt) : Prop where
  grows : d.Extends d'
  /-- A text that has an encoding and finds room never costs a file. -/
  fitting : text.HasEncoding → d.HasRoom text → d.SameFiles d'
  /-- Nor does a failure before the page is open. -/
  early : ¬ h.AfterOpening → d.SameFiles d'
  late : h.AfterOpening → ∃ target place kept, pagePath output source suffix = .ok target ∧
    Spoiling d text target place kept h ∧ d'.locate true target = .ok (.found place (.file kept)) ∧
    d.KeepsFiles d' (· = place) ∧ (d.SameFiles d' ↔ d.at? place = some (.file kept))

section Failed

variable {d d' : Disk} {output source : Path} {suffix text : Text} {h : Halt}

theorem OpeningFailure.not_afterOpening {target : Path} {f : Failure} (hf : OpeningFailure target f) :
    ¬ (Halt.failure f).AfterOpening := by
  rintro (⟨_, he⟩ | ⟨_, _, he⟩)
  · cases he
  · -- The cause names a path here and none there.
    have hcause := congrArg Failure.cause (Halt.failure.inj he)
    rcases hf with ⟨_, rfl⟩ | ⟨_, rfl⟩ <;> cases hcause

theorem FailedWrite.of_sameFiles (hx : d.Extends d') (hsame : d.SameFiles d') (hearly : ¬ h.AfterOpening) :
    FailedWrite d d' output source suffix text h :=
  ⟨hx, fun _ _ => hsame, fun _ => hsame, fun hlate => absurd hlate hearly⟩

theorem FailedWrite.of_spoiling (hx : d.Extends d') {target : Path} {place : List Text} {kept : List UInt8}
    (htarget : pagePath output source suffix = .ok target) (hspoiling : Spoiling d text target place kept h)
    (hkeep : d.KeepsFiles d' (· = place)) (hloc : d'.locate true target = .ok (.found place (.file kept))) :
    FailedWrite d d' output source suffix text h := by
  have hkept : d'.at? place = some (.file kept) := Node.at?_eq_file.mpr (Disk.locate_holds hloc)
  refine ⟨hx, fun hok hroom => ?_, fun hearly => absurd ?_ hearly,
    fun _ => ⟨target, place, kept, htarget, hspoiling, hloc, hkeep, hkeep.sameFiles_iff_kept hkept⟩⟩
  · cases hspoiling with
    | unencodable hfault => exact absurd hok ((Text.toUtf8_error_iff text).mp ⟨_, hfault⟩)
    | full hbytes _ hheld =>
      rw [hroom place _ hbytes] at hheld
      cases (Prod.mk.inj hheld).2
  · cases hspoiling with
    | unencodable _ => exact .inl ⟨_, rfl⟩
    | full _ _ _ => exact .inr ⟨_, _, rfl⟩

theorem writePage_failed (hw : writePage d output source suffix text = (d', .error h)) :
    FailedWrite d d' output source suffix text h := by
  cases writePage_failure hw with
  | pathless _ =>
    refine .of_sameFiles (.refl d) (fun _ _ => Iff.rfl) ?_
    rintro (⟨_, he⟩ | ⟨_, _, he⟩) <;> cases he
  | misnamed _ _ hx hkeep =>
    refine .of_sameFiles hx (Disk.sameFiles_iff.mpr hkeep) ?_
    rintro (⟨_, he⟩ | ⟨_, _, he⟩) <;> cases he
  | refused _ hf hx hkeep => exact .of_sameFiles hx (Disk.sameFiles_iff.mpr hkeep) hf.not_afterOpening
  | emptied hfault htarget hx hkeep hloc => exact .of_spoiling hx htarget (.unencodable hfault) hkeep hloc
  | cut hbytes hn hheld htarget hx hkeep hloc => exact .of_spoiling hx htarget (.full hbytes hn hheld) hkeep hloc

end Failed

def pageTree (content : List UInt8) (limits : Limits) : Disk :=
  ⟨.dir [(Text.ofString "m.html", .file content)], [], limits⟩

/-- The page can hold two bytes. -/
def smallPage : Limits := { rooms := [([Text.ofString "m.html"], ⟨2, .noSpace⟩)] }

/-- A page of one byte is lost to a text that is a surrogate, and to the start of a text that it cannot hold. -/
theorem writePage_failed_spoiled :
    (writePage (pageTree [0x61] {}) (Path.ofText ".") (Path.ofText "m.py") ".html" [CodePoint.ofNat 0xD800] =
      (pageTree [] {}, .error (.unencodable ⟨0, 1, 0xD800⟩)) ∧
      ¬ (pageTree [0x61] {}).SameFiles (pageTree [] {})) ∧
    writePage (pageTree [0x61] smallPage) (Path.ofText ".") (Path.ofText "m.py") ".html" (Text.ofString "bcd") =
      (pageTree [0x62, 0x63] smallPage, .error (.failure (fillFailure (Path.ofText "m.html") .noSpace))) ∧
      ¬ (pageTree [0x61] smallPage).SameFiles (pageTree [0x62, 0x63] smallPage) := by
  have ht : pagePath (Path.ofText ".") (Path.ofText "m.py") ".html" = .ok (Path.ofText "m.html") := by cbv
  have hlost : ∀ {c : List UInt8} {limits : Limits} {text : Text} {h : Halt},
      (pageTree c limits).locate true (Path.ofText "m.html") = .ok (.found [Text.ofString "m.html"] (.file c)) →
      [0x61] ≠ c → writePage (pageTree [0x61] limits) (Path.ofText ".") (Path.ofText "m.py") ".html" text =
        (pageTree c limits, .error h) → h.AfterOpening → ¬ (pageTree [0x61] limits).SameFiles (pageTree c limits) := by
    intro c limits text h hl hne hw hafter hsame
    obtain ⟨target, place, kept, htarget, _, hloc, _, hiff⟩ := (writePage_failed hw).late hafter
    rw [ht] at htarget
    cases htarget
    rw [hl] at hloc
    cases hloc
    have hbefore := hiff.mp hsame
    have hold : (pageTree [0x61] limits).at? [Text.ofString "m.html"] = some (.file [0x61]) := rfl
    rw [hold] at hbefore
    cases hbefore
    exact hne rfl
  have hw : writePage (pageTree [0x61] {}) (Path.ofText ".") (Path.ofText "m.py") ".html" [CodePoint.ofNat 0xD800] =
      (pageTree [] {}, .error (.unencodable ⟨0, 1, 0xD800⟩)) := by cbv
  have hcut : writePage (pageTree [0x61] smallPage) (Path.ofText ".") (Path.ofText "m.py") ".html"
      (Text.ofString "bcd") =
        (pageTree [0x62, 0x63] smallPage, .error (.failure (fillFailure (Path.ofText "m.html") .noSpace))) := by cbv
  refine ⟨⟨hw, hlost (by cbv) (by decide) hw (.inl ⟨_, rfl⟩)⟩, hcut, hlost (by cbv) (by decide) hcut ?_⟩
  exact .inr ⟨_, _, rfl⟩

end ModuleDocs
