import Mathlib
import ModuleDocs.Proofs.Storage.Growth
import ModuleDocs.Proofs.Text.Utf8
import ModuleDocs.Storage.Source

/-!
# Sources that are read and pages that are written

A source is the text that its bytes encode, with its line ends made alike, and bytes that encode no text are no source.
A page has the bytes of its text, so what is read of it is the text again, up to line ends.
-/

namespace ModuleDocs

/-! ### Line ends -/

def lineFeed : CodePoint := CodePoint.ofChar '\n'

def carriageReturn : CodePoint := CodePoint.ofChar '\r'

/-- The second text is the first one with a line feed for each pair of carriage return and line feed and for each
carriage return that stands alone, and the same in all else. -/
inductive UnifiedLines : Text → Text → Prop where
  | nil : UnifiedLines [] []
  | pair {t u : Text} : UnifiedLines t u → UnifiedLines (carriageReturn :: lineFeed :: t) (lineFeed :: u)
  | alone {t u : Text} : t.head? ≠ some lineFeed → UnifiedLines t u → UnifiedLines (carriageReturn :: t) (lineFeed :: u)
  | other {c : CodePoint} {t u : Text} : c ≠ carriageReturn → UnifiedLines t u → UnifiedLines (c :: t) (c :: u)

theorem normalizeLines_other {c : CodePoint} (hc : c ≠ carriageReturn) (t : Text) :
    normalizeLines (c :: t) = c :: normalizeLines t := by
  have hreturn : ¬ c = CodePoint.ofChar '\r' := hc
  cases t with
  | nil => simp [normalizeLines, hreturn]
  | cons d t => rw [normalizeLines, if_neg hreturn]

theorem normalizeLines_pair (t : Text) :
    normalizeLines (carriageReturn :: lineFeed :: t) = lineFeed :: normalizeLines t := by
  simp only [normalizeLines, carriageReturn, lineFeed, if_true]

theorem normalizeLines_alone {t : Text} (ht : t.head? ≠ some lineFeed) :
    normalizeLines (carriageReturn :: t) = lineFeed :: normalizeLines t := by
  cases t with
  | nil => simp only [normalizeLines, carriageReturn, lineFeed, if_true]
  | cons d t =>
    have hd : ¬ d = CodePoint.ofChar '\n' := fun hd => ht (congrArg some hd)
    simp only [normalizeLines, carriageReturn, lineFeed, if_true, hd, if_false]

theorem UnifiedLines.eq {t u : Text} (h : UnifiedLines t u) : u = normalizeLines t := by
  induction h with
  | nil => rfl
  | pair _ ih => rw [normalizeLines_pair, ih]
  | alone ht _ ih => rw [normalizeLines_alone ht, ih]
  | other hc _ ih => rw [normalizeLines_other hc, ih]

/-- The induction is on the length, since a pair takes two code points at once. -/
theorem unifiedLines_normalizeLines (t : Text) : UnifiedLines t (normalizeLines t) := by
  induction hlength : t.length using Nat.strongRecOn generalizing t with
  | ind n ih =>
    subst hlength
    cases t with
    | nil => exact .nil
    | cons c t =>
      by_cases hc : c = carriageReturn
      · subst hc
        by_cases ht : t.head? = some lineFeed
        · obtain ⟨rest, rfl⟩ := List.head?_eq_some_iff.mp ht
          rw [normalizeLines_pair]
          exact .pair (ih rest.length (by simp only [List.length_cons]; omega) rest rfl)
        · rw [normalizeLines_alone ht]
          exact .alone ht (ih t.length (by simp) t rfl)
      · rw [normalizeLines_other hc]
        exact .other hc (ih t.length (by simp) t rfl)

theorem unifiedLines_iff {t u : Text} : UnifiedLines t u ↔ u = normalizeLines t :=
  ⟨UnifiedLines.eq, fun h => h ▸ unifiedLines_normalizeLines t⟩

theorem normalizeLines_eq_self {t : Text} (h : carriageReturn ∉ t) : normalizeLines t = t := by
  induction t with
  | nil => rfl
  | cons c t ih =>
    rw [List.mem_cons, not_or] at h
    rw [normalizeLines_other (Ne.symm h.1), ih h.2]

/-! ### Reading -/

/-- A file can be read, with these bytes in it. -/
structure Readable (disk : Disk) (path : Path) (bytes : List UInt8) : Prop where
  named : path.text.nameFault? = none
  read : disk.read path = .ok bytes

section Reading

variable {disk : Disk} {path : Path} {bytes : List UInt8}

theorem readSource_of_wellFormed (hread : Readable disk path bytes) {cs : List Char}
    (hbytes : bytes = cs.flatMap String.utf8EncodeChar) :
    readSource disk path = .ok (normalizeLines (cs.map CodePoint.ofChar)) := by
  subst hbytes
  simp only [readSource, hread.named, hread.read, Text.ofUtf8_flatMap]

theorem readSource_of_not_wellFormed (hread : Readable disk path bytes) (hbytes : ¬ Utf8.WellFormed bytes) :
    ∃ fault, Text.ofUtf8 bytes = .error fault ∧
      readSource disk path = .error (.failure (decodeFailure path fault)) := by
  cases hdecode : Text.ofUtf8 bytes with
  | ok t => exact absurd (Text.ofUtf8_ok_iff.mp ⟨t, hdecode⟩) hbytes
  | error fault =>
    refine ⟨fault, rfl, ?_⟩
    simp only [readSource, hread.named, hread.read, hdecode]

end Reading

/-- What reading makes of the bytes of a file. -/
structure ReadsBytes (bytes : List UInt8) (result : Except Halt Text) : Prop where
  returns : (∃ text, result = .ok text) ↔ Utf8.WellFormed bytes
  /-- The text is that of the characters, with its line ends made alike. -/
  decodes : ∀ cs : List Char, bytes = cs.flatMap String.utf8EncodeChar →
    ∀ text, result = .ok text ↔ UnifiedLines (cs.map CodePoint.ofChar) text
  refuses : ¬ Utf8.WellFormed bytes → ∃ f, result = .error (.failure f) ∧ f.kind = .encoding

theorem readSource_reads {disk : Disk} {path : Path} {bytes : List UInt8} (hread : Readable disk path bytes) :
    ReadsBytes bytes (readSource disk path) where
  returns := by
    constructor
    · rintro ⟨text, htext⟩
      by_contra hbytes
      obtain ⟨fault, _, herror⟩ := readSource_of_not_wellFormed hread hbytes
      rw [herror] at htext
      cases htext
    · rintro ⟨cs, hbytes⟩
      exact ⟨_, readSource_of_wellFormed hread hbytes⟩
  decodes cs hbytes text := by
    rw [readSource_of_wellFormed hread hbytes, unifiedLines_iff, Except.ok.injEq, eq_comm]
  refuses hbytes := by
    obtain ⟨fault, _, herror⟩ := readSource_of_not_wellFormed hread hbytes
    exact ⟨_, herror, rfl⟩

/-! ### Writing -/

/-- What decides whether a page can be written: it can be opened, its text has an encoding, and it can hold it. -/
theorem writePage_eq_ok {d d' : Disk} {output source target : Path} {suffix text : Text} :
    writePage d output source suffix text = (d', .ok target) ↔ ∃ d₁ place bytes,
      pagePath output source suffix = .ok target ∧ openPage d target = (d₁, .ok place) ∧ text.toUtf8 = .ok bytes ∧
        d₁.fill place bytes = (d', none) := by
  constructor
  · intro h
    unfold writePage at h
    cases htarget : pagePath output source suffix with
    | error f =>
      rw [htarget] at h
      cases h
    | ok page =>
      rw [htarget] at h
      dsimp only at h
      cases hopen : openPage d page with
      | mk d₁ r =>
        rw [hopen] at h
        cases r with
        | error e => cases h
        | ok place =>
          dsimp only [fillPage] at h
          cases hbytes : text.toUtf8 with
          | error f =>
            rw [hbytes] at h
            cases h
          | ok bytes =>
            rw [hbytes] at h
            dsimp only at h
            cases hfill : d₁.fill place bytes with
            | mk d₂ fault =>
              rw [hfill] at h
              cases fault with
              | some f => cases h
              | none =>
                cases h
                exact ⟨d₁, place, bytes, rfl, hopen, rfl, hfill⟩
  · rintro ⟨d₁, place, bytes, htarget, hopen, hbytes, hfill⟩
    simp only [writePage, htarget, hopen, fillPage, hbytes, hfill]

/-- An open page that is given a content stands at its place, with the rights and the room that were there before. -/
theorem openPage_filled {d d₁ : Disk} {target : Path} {place : List Text} (hopen : openPage d target = (d₁, .ok place))
    (bytes : List UInt8) :
    target.text.nameFault? = none ∧ d.Extends (d₁.put place (.file bytes)) ∧
      d₁.fill place bytes = (d₁.put place (.file (d.held place bytes).1), (d.held place bytes).2) ∧
      (d₁.put place (.file bytes)).locate true target = .ok (.found place (.file bytes)) := by
  have hopening := openPage_cases d target
  rw [hopen] at hopening
  cases hopening with
  | opened hname _ hx _ hloc =>
    obtain ⟨_, hx₂, hloc₂⟩ := Disk.put_file_located hloc bytes
    refine ⟨hname, hx.trans hx₂, ?_, hloc₂⟩
    rw [Disk.fill, hx.held]

theorem readSource_of_located {d : Disk} {target : Path} {place : List Text} {text : Text} {bytes : List UInt8}
    (hname : target.text.nameFault? = none) (hloc : d.locate true target = .ok (.found place (.file bytes)))
    (hallowed : d.allows .read place = true) (hbytes : text.toUtf8 = .ok bytes) :
    readSource d target = .ok (normalizeLines text) := by
  have hread : d.read target = .ok bytes := Disk.read_eq_ok.mpr ⟨place, hloc, hallowed⟩
  simp only [readSource, hname, hread, Text.ofUtf8_of_toUtf8 hbytes]

/-- A page that can be written with one text has a place, and it can be written with any text that has an encoding and
finds room at that place. If it may be read, it is read as that text. -/
theorem writePage_any {d d₀ : Disk} {output source target : Path} {suffix text₀ : Text}
    (h : writePage d output source suffix text₀ = (d₀, .ok target)) :
    ∃ place bytes, d₀.locate true target = .ok (.found place (.file bytes)) ∧ text₀.HasEncoding ∧
      d.RoomAt place text₀ ∧ ∀ text : Text, text.HasEncoding → d.RoomAt place text →
        ∃ d', writePage d output source suffix text = (d', .ok target) ∧
          (d.allows .read place = true → readSource d' target = .ok (normalizeLines text)) := by
  obtain ⟨d₁, place, bytes₀, htarget, hopen, hbytes₀, hfill₀⟩ := writePage_eq_ok.mp h
  obtain ⟨hname, _, hfilled₀, hloc₀⟩ := openPage_filled hopen bytes₀
  have hroom₀ : d.held place bytes₀ = (bytes₀, none) := by
    rcases d.held_cases place bytes₀ with hall | ⟨n, f, _, hpart⟩
    · exact hall
    · rw [hfilled₀, hpart] at hfill₀
      cases hfill₀
  rw [hfilled₀, hroom₀] at hfill₀
  cases hfill₀
  refine ⟨place, bytes₀, hloc₀, (Text.toUtf8_ok_iff text₀).mp ⟨bytes₀, hbytes₀⟩, ?_, fun text htext hroom => ?_⟩
  · intro bytes hbytes
    rw [hbytes₀] at hbytes
    cases hbytes
    exact hroom₀
  · obtain ⟨bytes, hbytes⟩ := (Text.toUtf8_ok_iff text).mpr htext
    obtain ⟨_, hx, hfilled, hloc⟩ := openPage_filled hopen bytes
    rw [hroom bytes hbytes] at hfilled
    refine ⟨_, writePage_eq_ok.mpr ⟨d₁, place, bytes, htarget, hopen, hbytes, hfilled⟩, fun hallowed => ?_⟩
    exact readSource_of_located hname hloc ((hx.allows .read place).trans hallowed) hbytes

/-- A file is read as the text of its bytes, if they are those of some characters, with its line ends made alike. A page
that can be written can be written with every text that has an encoding and finds room at its place, and if files at
that place may be read, it is read as the text that was written, with its line ends made alike. -/
theorem readSource_writePage :
    (∀ {disk : Disk} {path : Path} {bytes : List UInt8}, Readable disk path bytes →
      ReadsBytes bytes (readSource disk path)) ∧
    ∀ {disk opened : Disk} {output source target : Path} {suffix first : Text},
      writePage disk output source suffix first = (opened, .ok target) →
      ∃ place bytes, opened.locate true target = .ok (.found place (.file bytes)) ∧ first.HasEncoding ∧
        disk.RoomAt place first ∧ ∀ text : Text, text.HasEncoding → disk.RoomAt place text →
          ∃ written, writePage disk output source suffix text = (written, .ok target) ∧
            (disk.allows .read place = true → ∃ read, readSource written target = .ok read ∧ UnifiedLines text read ∧
              (carriageReturn ∉ text → read = text)) := by
  refine ⟨fun hread => readSource_reads hread, fun hfirst => ?_⟩
  obtain ⟨place, bytes, hloc, hencoding, hroom, hany⟩ := writePage_any hfirst
  refine ⟨place, bytes, hloc, hencoding, hroom, fun text htext hroom => ?_⟩
  obtain ⟨written, hwritten, hread⟩ := hany text htext hroom
  refine ⟨written, hwritten, fun hallowed => ⟨normalizeLines text, hread hallowed, ?_, normalizeLines_eq_self⟩⟩
  exact unifiedLines_normalizeLines text

/-- The bytes of a file with a byte order mark and both kinds of line ends. -/
def markedBytes : List UInt8 := [0xEF, 0xBB, 0xBF, 0x61, 0x0D, 0x0A, 0x62, 0x0D]

def markedTree (others : List (Text × Node)) : Disk :=
  ⟨.dir ((Text.ofString "m.py", .file markedBytes) :: others), [], {}⟩

/-- The mark stays, each line end is a line feed, and a page is read with line feeds as well. -/
theorem readSource_writePage_marked :
    Readable (markedTree []) (Path.ofText "m.py") markedBytes ∧
    readSource (markedTree []) (Path.ofText "m.py") = .ok (Text.ofString "\uFEFFa\nb\n") ∧
    ∃ written, writePage (markedTree []) (Path.ofText ".") (Path.ofText "m.py") ".html" (Text.ofString "x\r\r\ny") =
        (written, .ok (Path.ofText "m.html")) ∧
      readSource written (Path.ofText "m.html") = .ok (Text.ofString "x\n\ny") := by
  have hread : Readable (markedTree []) (Path.ofText "m.py") markedBytes := ⟨by cbv, by cbv⟩
  have hbytes : markedBytes = ['\uFEFF', 'a', '\r', '\n', 'b', '\r'].flatMap String.utf8EncodeChar := by decide
  have hlines : Text.ofString "\uFEFFa\nb\n" =
      normalizeLines (['\uFEFF', 'a', '\r', '\n', 'b', '\r'].map CodePoint.ofChar) := by decide
  have hpage : writePage (markedTree []) (Path.ofText ".") (Path.ofText "m.py") ".html" (Text.ofString "x\r\r\ny") =
      (markedTree [(Text.ofString "m.html", .file [0x78, 0x0D, 0x0D, 0x0A, 0x79])], .ok (Path.ofText "m.html")) := by
    cbv
  refine ⟨hread, ((readSource_writePage.1 hread).decodes _ hbytes _).mpr (unifiedLines_iff.mpr hlines), ?_⟩
  obtain ⟨place, _, _, hencoding, hroom, hany⟩ := readSource_writePage.2 hpage
  obtain ⟨written, hwritten, hreads⟩ := hany _ hencoding hroom
  rw [hpage] at hwritten
  cases hwritten
  obtain ⟨read, hsource, hunified, _⟩ := hreads rfl
  have hread : read = Text.ofString "x\n\ny" := by
    rw [hunified.eq]
    decide
  exact ⟨_, hpage, by rw [hsource, hread]⟩

end ModuleDocs
