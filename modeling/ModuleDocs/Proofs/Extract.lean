import ModuleDocs.Extract
import ModuleDocs.Proofs.Faults
import ModuleDocs.Proofs.Storage.SourceText

/-!
# Failures of an extraction

A file that cannot be opened or decoded fails as such, and no checker is asked about it. What a checker says of any
other file is handed on: its answer as it is, its failure with nothing changed but the place it names, and an exception
as the cause of a failure that names the place. Nothing is reported of a path that no file can have, and of an exception
that has no text.
-/

namespace ModuleDocs

/-- A checker that works in two steps: the first checks a module, the second collects the comments from what the first
one has found. -/
structure CheckingSteps (α : Type) where
  typecheck : Text → Text → Except Rejection (α × Interface)
  collect : α → Except Rejection Comments

namespace CheckingSteps

variable {α : Type} {steps : CheckingSteps α} {module source : Text}

def checker (steps : CheckingSteps α) : Checker where
  check module source := do
    let (found, i) ← steps.typecheck module source
    let c ← steps.collect found
    return (i, c)

/-- One of the steps gives no answer about a module. -/
inductive Raises (steps : CheckingSteps α) (module source : Text) (r : Rejection) : Prop where
  | typecheck : steps.typecheck module source = .error r → Raises steps module source r
  | collect {found : α} {i : Interface} : steps.typecheck module source = .ok (found, i) →
      steps.collect found = .error r → Raises steps module source r

/-- Both steps give an answer about a module. -/
def Answers (steps : CheckingSteps α) (module source : Text) (i : Interface) (c : Comments) : Prop :=
  ∃ found, steps.typecheck module source = .ok (found, i) ∧ steps.collect found = .ok c

theorem check_of_raises {r : Rejection} (h : steps.Raises module source r) :
    steps.checker.check module source = .error r := by
  cases h with
  | typecheck htypecheck => simp only [checker, htypecheck, bind, Except.bind]
  | collect htypecheck hcollect => simp only [checker, htypecheck, hcollect, bind, Except.bind]

theorem check_of_answers {i : Interface} {c : Comments} (h : steps.Answers module source i c) :
    steps.checker.check module source = .ok (i, c) := by
  obtain ⟨found, htypecheck, hcollect⟩ := h
  simp only [checker, htypecheck, hcollect, bind, Except.bind]
  rfl

end CheckingSteps

/-- The failure names a path and a stage of the run. -/
def Failure.Names (f : Failure) (path : Path) (stage : String) : Prop :=
  f.context.path = some path.text ∧ f.context.stage = .ofString stage

/-- The failure as it is, but for the file, the module and the stage that it names. -/
def Failure.relocated (f : Failure) (path : Path) (module : Text) (stage : String) : Failure :=
  { f with context := { f.context with path := some path.text, module := .str module, stage := .ofString stage } }

/-- What an extraction makes of a file and of what the two steps of a checker say about it. -/
structure Extracts {α : Type} (disk : Disk) (steps : CheckingSteps α) (path : Path) (module : Text) (x : Extraction) :
    Prop where
  misnamed : ∀ fault, path.text.nameFault? = some fault → x = ⟨none, .error (.name fault)⟩
  unopened : ∀ fault, path.text.nameFault? = none → disk.read path = .error fault → x.asked = none ∧
    ∃ f, x.result = .error (.failure f) ∧ f.kind = .fileSystem ∧ f.cause = some (.system fault path.text) ∧
      f.Names path "read"
  undecoded : ∀ bytes, Readable disk path bytes → ¬ Utf8.WellFormed bytes → x.asked = none ∧ ∃ f fault,
    x.result = .error (.failure f) ∧ f.kind = .encoding ∧ f.cause = some (.decoding fault) ∧ f.Names path "read"
  /-- The checker is asked once, about the text of the file. -/
  asked : ∀ bytes, Readable disk path bytes → Utf8.WellFormed bytes →
    ∃ source, readSource disk path = .ok source ∧ x.asked = some (module, source)
  rejected : ∀ source f, readSource disk path = .ok source → steps.Raises module source (.failure f) →
    x.result = .error (.failure (f.relocated path module "typecheck"))
  crashed : ∀ source e, readSource disk path = .ok source → steps.Raises module source (.crash e) →
    ∃ f, x.result = .error (.failure f) ∧ f.kind = .typecheck ∧ f.cause = some (.foreign e) ∧
      f = f.relocated path module "typecheck"
  muted : ∀ source again, readSource disk path = .ok source → steps.Raises module source (.mute again) →
    x.result = .error (.crash again)
  accepted : ∀ source i c, readSource disk path = .ok source → steps.Answers module source i c →
    x.result = .ok (i, c)

section

variable {disk : Disk} {path : Path}

theorem extract_of_unread {h : Halt} (hsource : readSource disk path = .error h) (checker : Checker)
    (module : Text) : extract disk checker path module = ⟨none, .error h⟩ := by
  simp only [extract, hsource]

theorem extract_of_read {source : Text} (hsource : readSource disk path = .ok source) (checker : Checker)
    (module : Text) : extract disk checker path module =
      ⟨some (module, source), (checker.check module source).mapError (Rejection.toHalt path.text module)⟩ := by
  simp only [extract, hsource]

end

/-- What an extraction does with a path, with the file there, and with what the checker says about it. -/
theorem extract_reports {α : Type} (disk : Disk) (steps : CheckingSteps α) (path : Path) (module : Text) :
    Extracts disk steps path module (extract disk steps.checker path module) where
  misnamed fault hname := by
    have hsource : readSource disk path = .error (.name fault) := by simp only [readSource, hname]
    exact extract_of_unread hsource _ _
  unopened fault hname hread := by
    have hsource : readSource disk path = .error (.failure (openFailure path fault)) := by
      simp only [readSource, hname, hread]
    rw [extract_of_unread hsource]
    exact ⟨rfl, _, rfl, rfl, rfl, rfl, rfl⟩
  undecoded bytes hread hbytes := by
    obtain ⟨fault, _, hsource⟩ := readSource_of_not_wellFormed hread hbytes
    rw [extract_of_unread hsource]
    exact ⟨rfl, _, fault, rfl, rfl, rfl, rfl, rfl⟩
  asked bytes hread hbytes := by
    obtain ⟨source, hsource⟩ := (readSource_reads hread).returns.mpr hbytes
    rw [extract_of_read hsource]
    exact ⟨source, hsource, rfl⟩
  rejected source f hsource hraises := by
    rw [extract_of_read hsource, CheckingSteps.check_of_raises hraises]
    rfl
  crashed source e hsource hraises := by
    rw [extract_of_read hsource, CheckingSteps.check_of_raises hraises]
    exact ⟨_, rfl, rfl, rfl, rfl⟩
  muted source again hsource hraises := by
    rw [extract_of_read hsource, CheckingSteps.check_of_raises hraises]
    rfl
  accepted source i c hsource hanswers := by
    rw [extract_of_read hsource, CheckingSteps.check_of_answers hanswers]
    rfl

/-- A failure of a kind of its own that names another place. -/
def strayFailure : Failure :=
  ⟨.derived "StrayError" .internal, .render, "lost", ⟨some "elsewhere", .str "other", .null, [("n", .ofNat 1)], none⟩,
    none⟩

/-- A checker that gives up when it collects comments. -/
def straySteps : CheckingSteps Unit where
  typecheck _ _ := .ok ((), ⟨[], []⟩)
  collect _ := .error (.failure strayFailure)

/-- A failure of the second step is relocated with all else as it was, and a path with a null character in it is not
reported, although no file has it. -/
theorem extract_reports_stray :
    (extract (markedTree []) straySteps.checker (Path.ofText "m.py") "m").result =
      .error (.failure ⟨.derived "StrayError" .internal, .render, "lost",
        ⟨some "m.py", .str "m", .ofString "typecheck", [("n", .ofNat 1)], none⟩, none⟩) ∧
    (markedTree []).read (Path.ofText "a\x00.py") = .error .notFound ∧
    extract (markedTree []) straySteps.checker (Path.ofText "a\x00.py") "a" =
      ⟨none, .error (.name .nullCharacter)⟩ := by
  have hread : Readable (markedTree []) (Path.ofText "m.py") markedBytes := ⟨by cbv, by cbv⟩
  have hbytes : Utf8.WellFormed markedBytes := ⟨['\uFEFF', 'a', '\r', '\n', 'b', '\r'], by decide⟩
  obtain ⟨source, hsource, _⟩ :=
    (extract_reports (markedTree []) straySteps (Path.ofText "m.py") "m").asked _ hread hbytes
  refine ⟨?_, by cbv, ?_⟩
  · rw [(extract_reports (markedTree []) straySteps (Path.ofText "m.py") "m").rejected source strayFailure hsource
      (.collect rfl rfl)]
    rfl
  · exact (extract_reports (markedTree []) straySteps (Path.ofText "a\x00.py") "a").misnamed .nullCharacter (by cbv)

end ModuleDocs
