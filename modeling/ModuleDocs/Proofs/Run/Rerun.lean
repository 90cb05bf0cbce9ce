import Mathlib
import ModuleDocs.Proofs.Run.Undisturbed
import ModuleDocs.Proofs.Storage.Shape

/-!
# Running once more

After a run that came to its end, the same run finds the same source files and writes the same pages over the ones that
are there, so that it leaves the files as it found them. The two runs are compared file by file: whatever the later run
has written already is what the earlier one had written by then, and the rest is as the earlier run left it in the end.
The exception is something that the first run has made below the input directory at a path that is too long.
-/

namespace ModuleDocs

open ModuleDocs.Path (isName)

namespace Walk

variable {σ : Type} {rules : WalkRules} {disk : σ → Disk} {act : Path → σ → Outcome σ}

/-! ### Walks confined to some files -/

/-- The act on files of a list; on others it is stopped. -/
def confined (found : List Path) (h₀ : Halt) (act : Path → σ → Outcome σ) (p : Path) (s : σ) : Outcome σ :=
  if p ∈ found then act p s else ⟨s, some h₀⟩

variable {found : List Path} {h₀ : Halt}

theorem confined_eq {p : Path} {s : σ} (h : (confined found h₀ act p s).halt ≠ some h₀) :
    act p s = confined found h₀ act p s := by
  unfold confined at h ⊢
  split
  · rfl
  · rename_i hp
    rw [if_neg hp] at h
    exact absurd rfl h

theorem halt_of_andThen {o : Outcome σ} {f : σ → Outcome σ} (h : (o.andThen f).halt ≠ some h₀) :
    o.halt ≠ some h₀ := by
  intro ho
  rw [Outcome.andThen, ho] at h
  exact h ho

theorem visitEntry_confined {enter enter' : Path → σ → Outcome σ} {dir : Path} {name : Text} {s : σ}
    (henter : ∀ p, (enter' p s).halt ≠ some h₀ → enter p s = enter' p s)
    (h : (visitEntry rules disk (confined found h₀ act) enter' dir name s).halt ≠ some h₀) :
    visitEntry rules disk act enter dir name s =
      visitEntry rules disk (confined found h₀ act) enter' dir name s := by
  unfold visitEntry at h ⊢
  dsimp only at h ⊢
  split
  · rfl
  · rename_i hskip
    rw [if_neg hskip] at h
    split
    · rename_i hnode
      rw [hnode] at h
      exact henter _ h
    · rename_i hnode
      rw [hnode] at h
      dsimp only at h
      split
      · rename_i hsuffix
        rw [if_pos hsuffix] at h
        exact confined_eq h
      · rfl
    · rfl
    · rfl

theorem visitEntries_confined {enter enter' : Path → σ → Outcome σ} {dir : Path} {names : List Text} {s : σ}
    (henter : ∀ p s, (enter' p s).halt ≠ some h₀ → enter p s = enter' p s)
    (h : (visitEntries rules disk (confined found h₀ act) enter' dir names s).halt ≠ some h₀) :
    visitEntries rules disk act enter dir names s =
      visitEntries rules disk (confined found h₀ act) enter' dir names s := by
  induction names generalizing s with
  | nil => rfl
  | cons name names ih =>
    rw [visitEntries] at h
    have hfirst := visitEntry_confined (fun p => henter p s) (halt_of_andThen h)
    rw [visitEntries, visitEntries, hfirst]
    cases ho : visitEntry rules disk (confined found h₀ act) enter' dir name s with
    | mk t halt =>
      rw [ho] at h
      cases halt with
      | none => exact ih h
      | some h₁ => rfl

theorem visitDirectory_confined {levels : Nat} {p : Path} {s : σ}
    (h : (visitDirectory rules disk (confined found h₀ act) levels p s).halt ≠ some h₀) :
    visitDirectory rules disk act levels p s = visitDirectory rules disk (confined found h₀ act) levels p s := by
  induction levels generalizing p s with
  | zero => rfl
  | succ levels ih =>
    unfold visitDirectory at h ⊢
    split
    · rfl
    · rename_i hlist
      rw [hlist] at h
      exact visitEntries_confined (fun p s => ih) h

theorem actAll_confined {ps : List Path} (hps : ∀ p ∈ ps, p ∈ found) (s : σ) :
    actAll (confined found h₀ act) ps s = actAll act ps s := by
  induction ps generalizing s with
  | nil => rfl
  | cons p ps ih =>
    have hact : confined found h₀ act p s = act p s := if_pos (hps p List.mem_cons_self)
    rw [actAll, actAll, hact]
    cases act p s with
    | mk t halt =>
      cases halt with
      | none => exact ih (fun q hq => hps q (List.mem_cons_of_mem _ hq)) t
      | some h => rfl

end Walk

theorem Disk.Extends.locate_file {d d' : Disk} (hx : d.Extends d') {follow : Bool} {p : Path} {place : List Text}
    {c : List UInt8} (h : d.locate follow p = .ok (.found place (.file c))) :
    ∃ c', d'.locate follow p = .ok (.found place (.file c')) := by
  obtain ⟨c', hc'⟩ := hx.file place c (Node.at?_eq_file.mpr (locate_holds h))
  exact ⟨c', hx.locate_found h (Node.at?_eq_file.mp hc')⟩

namespace RunPlan

open Walk

variable {plan : RunPlan} {disk last : Disk}

/-! ### Two runs file by file -/

theorem rendered_congr {d d' : Disk} {file : Path} (h : d'.read file = d.read file) :
    plan.rendered d' file = plan.rendered d file := by
  unfold rendered extract readSource
  rw [h]

/-- A state of a first run that will end with the files `last`, beside a state of a later run that started with them and
has gone through the same files. -/
structure InStep (plan : RunPlan) (disk last : Disk) (p q : Progress) : Prop where
  shape : last.SameShape q.disk
  contents : ∀ place c, q.disk.at? place = some (.file c) →
    p.disk.at? place = some (.file c) ∨ last.at? place = some (.file c)
  first : Grown plan.rules disk p.disk
  later : Grown plan.rules disk q.disk

theorem root_dir {place : List Text} {es : List (Text × Node)} (h : disk.root.get? place = some (.dir es)) :
    disk.at? [] = some .dir := by
  cases place with
  | nil => exact Node.at?_eq_dir.mpr ⟨es, h⟩
  | cons name rest =>
    rw [← List.nil_append (name :: rest)] at h
    exact Node.at?_eq_dir.mpr (Node.get?_above h)

/-- A page that is there is written again: no other file changes, and none is new. -/
theorem documentBound_again {q : Progress} (hwf : q.disk.WellFormed) (hroot : q.disk.at? [] = some .dir)
    (hfree : ∀ r t, q.disk.at? r ≠ some (.link t)) {file target : Path} {text : Text} {bytes c : List UInt8}
    {place : List Text} (hrendered : plan.rendered q.disk file = .ok text) (htarget : plan.target file = .ok target)
    (hname : target.text.nameFault? = none) (hallowed : q.disk.allows .write place = true)
    (hbytes : text.toUtf8 = .ok bytes) (hheld : q.disk.held place bytes = (bytes, none))
    (hloc : q.disk.locate true target = .ok (.found place (.file c))) :
    ∃ q', plan.documentBound file q = .next q' ∧ q'.written = q.written ++ [target] ∧ q.disk.SameShape q'.disk ∧
      q.disk.KeepsFiles q'.disk (· = place) ∧ q'.disk.at? place = some (.file bytes) := by
  obtain ⟨d, hwrite, hshape⟩ := writePage_again hwf hroot hfree htarget hname hallowed hbytes hheld hloc
  have hdoc := documentBound_documented plan file q
  generalize ho : plan.documentBound file q = o at hdoc
  cases hdoc with
  | unrendered herror =>
    rw [hrendered] at herror
    cases herror
  | unwritten hsame herror =>
    rw [hrendered] at hsame
    cases hsame
    rw [hwrite] at herror
    cases herror
  | @written q' _ _ hsame hagain hwritten _ =>
    rw [hrendered] at hsame
    cases hsame
    rw [hwrite] at hagain
    obtain ⟨rfl, htargets⟩ := Prod.mk.inj hagain
    cases htargets
    refine ⟨q', rfl, hwritten, hshape, ?_⟩
    cases writePage_pageWriting hwrite with
    | @written _ _ place' bytes' hgrows hkeeps _ _ _ hbytes' _ hloc' =>
      rw [hbytes] at hbytes'
      cases hbytes'
      obtain ⟨c', hsame⟩ := hgrows.locate_file hloc
      rw [hloc'] at hsame
      cases hsame
      exact ⟨hkeeps, Node.at?_eq_file.mpr (Disk.locate_holds hloc')⟩

/-- The page of a file is written again where it was written before. -/
theorem inStep_next (hd : disk.WellFormed) (hout : plan.output.Plain)
    (hinput : plan.input.text.nameFault? = none) {base : List Text} {es : List (Text × Node)}
    (hroot : disk.locate true plan.input = .ok (.found base (.dir es))) {rel : List Text}
    (hrel : ∀ x ∈ rel, isName x = true) (hfile : plan.input.below rel ∈ (files plan.rules disk plan.input).state)
    (hsuffix : ∀ target, plan.target (plan.input.below rel) = .ok target → target.suffix ≠ plan.rules.suffix)
    {p p' q : Progress} (h : InStep plan disk last p q) (ho : plan.documentBound (plan.input.below rel) p = .next p')
    (hlast : p'.disk.Extends last) :
    ∃ q' target, plan.documentBound (plan.input.below rel) q = .next q' ∧ p'.written = p.written ++ [target] ∧
      q'.written = q.written ++ [target] ∧ InStep plan disk last p' q' := by
  have hfirst := grown_next hout hrel h.first ho hsuffix
  have hdoc := documentBound_documented plan (plan.input.below rel) p
  rw [ho] at hdoc
  cases hdoc with
  | @written _ text target hrendered hwrite hwritten _ =>
    cases writePage_pageWriting hwrite with
    | @written _ _ place bytes _ hkeeps htarget hname hallowed hbytes hheld hloc =>
      -- The page stands at the same place at the end of the first run, and ever since.
      obtain ⟨c, hloc'⟩ := (hlast.trans h.shape.extends).locate_file hloc
      have hread : q.disk.read (plan.input.below rel) = p.disk.read (plan.input.below rel) := by
        rw [read_source hd h.later hinput hroot hfile, read_source hd h.first hinput hroot hfile]
      have hrendered' : plan.rendered q.disk (plan.input.below rel) = .ok text :=
        (rendered_congr hread).trans hrendered
      have htop : q.disk.at? [] = some .dir := h.later.grows.dir [] (root_dir (Disk.locate_holds hroot))
      have hallowed' : q.disk.allows .write place = true :=
        (h.later.grows.allows ..).trans ((h.first.grows.allows ..).symm.trans hallowed)
      have hheld' : q.disk.held place bytes = (bytes, none) :=
        (h.later.grows.held ..).trans ((h.first.grows.held ..).symm.trans hheld)
      obtain ⟨q', ho', hwritten', hshape, hkeeps', hpage'⟩ :=
        documentBound_again h.later.wellFormed htop h.later.linkFree hrendered' htarget hname hallowed' hbytes hheld'
          hloc'
      have hlater := grown_next hout hrel h.later ho' hsuffix
      refine ⟨q', target, ho', hwritten, hwritten', h.shape.trans hshape, ?_, hfirst, hlater⟩
      intro r b hr
      by_cases hmine : r = place
      · rw [hmine] at hr ⊢
        rw [hpage'] at hr
        cases hr
        exact .inl (Node.at?_eq_file.mpr (Disk.locate_holds hloc))
      · have hbefore := (hkeeps' r b hmine).mp hr
        exact (h.contents r b hbefore).imp_left (hkeeps r b hmine).mpr

theorem inStep_actAll (hd : disk.WellFormed) (hout : plan.output.Plain)
    (hinput : plan.input.text.nameFault? = none) {base : List Text} {es : List (Text × Node)}
    (hroot : disk.locate true plan.input = .ok (.found base (.dir es))) {ps : List Path}
    (hps : ∀ f ∈ ps, f ∈ (files plan.rules disk plan.input).state)
    (hsuffix : ∀ f ∈ ps, ∀ target, plan.target f = .ok target → target.suffix ≠ plan.rules.suffix)
    {p e q : Progress} (h : InStep plan disk last p q) (hacts : actAll plan.documentBound ps p = .next e)
    (hlast : e.disk.Extends last) :
    ∃ e' pages, actAll plan.documentBound ps q = .next e' ∧ e.written = p.written ++ pages ∧
      e'.written = q.written ++ pages ∧ InStep plan disk last e e' := by
  induction ps generalizing p q with
  | nil =>
    cases hacts
    exact ⟨q, [], rfl, (List.append_nil _).symm, (List.append_nil _).symm, h⟩
  | cons f ps ih =>
    have hsurvey : Surveys plan.rules disk plan.input base (fun _ => True) (files plan.rules disk plan.input) :=
      files_surveys hd hinput hroot
    obtain ⟨rel, hrel, rfl⟩ := hsurvey.names hd f (hps f List.mem_cons_self)
    rw [actAll] at hacts
    cases ho : plan.documentBound (plan.input.below rel) p with
    | mk p' halt =>
      rw [ho] at hacts
      cases halt with
      | some h₀ => cases hacts
      | none =>
        have hrest : actAll plan.documentBound ps p' = .next e := hacts
        have hgrows := actAll_extends (fun g s => (documentBound_documented plan g s).extends) ps p'
        rw [hrest] at hgrows
        obtain ⟨q', target, ho', hwritten, hwritten', hnext⟩ := inStep_next hd hout hinput hroot hrel
          (hps _ List.mem_cons_self) (hsuffix _ List.mem_cons_self) h ho (hgrows.trans hlast)
        obtain ⟨e', pages, hacts', hpages, hpages', hend⟩ := ih (fun g hg => hps g (List.mem_cons_of_mem _ hg))
          (fun g hg => hsuffix g (List.mem_cons_of_mem _ hg)) hnext hrest
        refine ⟨e', target :: pages, ?_, ?_, ?_, hend⟩
        · rw [actAll, ho']
          exact hacts'
        · rw [hpages, hwritten, List.append_assoc, List.singleton_append]
        · rw [hpages', hwritten', List.append_assoc, List.singleton_append]

/-- A later run that has gone through some of the files of the first one has kept the shape of the tree. -/
theorem inStep_initial (hd : disk.WellFormed) (hout : plan.output.Plain)
    (hinput : plan.input.text.nameFault? = none) {base : List Text} {es : List (Text × Node)}
    (hroot : disk.locate true plan.input = .ok (.found base (.dir es))) {done rest : List Path}
    (hdone : ∀ f ∈ done, f ∈ (files plan.rules disk plan.input).state)
    (hsuffix : ∀ f ∈ (files plan.rules disk plan.input).state, ∀ target, plan.target f = .ok target →
      target.suffix ≠ plan.rules.suffix) {p e q t : Progress} (h : InStep plan disk e.disk p q)
    (hacts : actAll plan.documentBound (done ++ rest) p = .next e)
    (hagain : actAll plan.documentBound done q = .next t) : e.disk.SameShape t.disk := by
  rw [actAll_append] at hacts
  cases hfirst : actAll plan.documentBound done p with
  | mk m halt =>
    rw [hfirst] at hacts
    cases halt with
    | some h₀ => cases hacts
    | none =>
      have hrest : actAll plan.documentBound rest m = .next e := hacts
      have hgrows := actAll_extends (fun g s => (documentBound_documented plan g s).extends) rest m
      rw [hrest] at hgrows
      obtain ⟨t', _, ht', _, _, hmid⟩ :=
        inStep_actAll hd hout hinput hroot hdone (fun f hf => hsuffix f (hdone f hf)) h hfirst hgrows
      rw [hagain] at ht'
      cases ht'
      exact hmid.shape

theorem actAll_targets {ps : List Path} {p e : Progress} (hacts : actAll plan.documentBound ps p = .next e) :
    (∀ t ∈ p.written, t ∈ e.written) ∧ ∀ f ∈ ps, ∀ target, plan.target f = .ok target → target ∈ e.written := by
  induction ps generalizing p with
  | nil =>
    cases hacts
    exact ⟨fun _ ht => ht, fun _ hf => absurd hf List.not_mem_nil⟩
  | cons f ps ih =>
    rw [actAll] at hacts
    have hsubset := (documentBound_documented plan f p).written_subset
    cases ho : plan.documentBound f p with
    | mk p' halt =>
      rw [ho] at hacts hsubset
      cases halt with
      | some h₀ => cases hacts
      | none =>
        obtain ⟨hkept, hrest⟩ := ih hacts
        refine ⟨fun t ht => hkept t (hsubset t ht), fun g hg target htarget => ?_⟩
        rcases List.mem_cons.mp hg with rfl | hg
        · exact hkept target (target_mem_written ho htarget)
        · exact hrest g hg target htarget

/-! ### Whole runs -/

theorem listsNew_of_unlocked (hlists : disk.locked = []) (final : Disk) : plan.ListsNew disk final := by
  intro place n rel _ _ _
  rw [hlists]
  rfl

/-- A run that comes to its end has documented the files that are found at the start, one after the other. -/
theorem finished (plan : RunPlan) {disk : Disk} (log : Log) (hd : disk.WellFormed)
    (hfree : ∀ q t, disk.at? q ≠ some (.link t)) (hlists : disk.locked = []) (hout : plan.output.Plain)
    (hpages : ∀ t ∈ (plan.run disk log).state.written, t.suffix ≠ plan.rules.suffix)
    (hok : (plan.run disk log).halt = none) :
    plan.input.text.nameFault? = none ∧ (∃ base es, disk.locate true plan.input = .ok (.found base (.dir es))) ∧
    (files plan.rules disk plan.input).halt = none ∧
    ∃ p, actAll plan.documentBound (files plan.rules disk plan.input).state (plan.start disk log) = .next p ∧
      (plan.run disk log).state.disk = p.disk ∧ (plan.run disk log).state.written = p.written := by
  obtain ⟨hhalt, hdisk, hwritten, _⟩ := andThen_finish
    (visit plan.rules Progress.disk plan.documentBound plan.input (plan.start disk log))
  rw [← run_eq] at hhalt hdisk hwritten
  rw [hok] at hhalt
  have hroot : plan.input.text.nameFault? = none ∧
      ∃ base es, disk.locate true plan.input = .ok (.found base (.dir es)) := by
    by_contra hroot
    have hno : (plan.start disk log).disk.isDirectory plan.input ≠ .ok true :=
      fun h => hroot (Disk.isDirectory_eq_true.mp h)
    obtain ⟨h, hstop, _⟩ :
        ∃ h, visit plan.rules Progress.disk plan.documentBound plan.input (plan.start disk log) = ⟨_, some h⟩ ∧ _ :=
      visit_no_directory hno
    rw [hstop] at hhalt
    cases hhalt
  obtain ⟨hinput, base, es, hlocated⟩ := hroot
  have hharmless : plan.Harmless disk
      (visit plan.rules Progress.disk plan.documentBound plan.input (plan.start disk log)).state :=
    ⟨hwritten ▸ hpages, listsNew_of_unlocked hlists _⟩
  have hreplays : Replays Progress.disk plan.documentBound disk plan.input base (plan.start disk log) _ _ :=
    visit_replays (documentBound_steady hd hout hlocated) hfree hinput hlocated hharmless
  refine ⟨hinput, ⟨base, es, hlocated⟩, ?_⟩
  rcases hreplays with heq | ⟨_, _, _, _, _, _, _, hstop⟩
  · have hstart : (plan.start disk log).disk = disk := rfl
    rw [heq, replay, hstart] at hhalt hdisk hwritten
    cases hacts : actAll plan.documentBound (files plan.rules disk plan.input).state (plan.start disk log) with
    | mk p halt =>
      rw [hacts] at hhalt hdisk hwritten
      cases halt with
      | some h => cases hhalt
      | none => exact ⟨hhalt.symm, p, rfl, hdisk, hwritten⟩
  · rw [hstop] at hhalt
    cases hhalt

/-- Confined to the files of the first run, a walk keeps the source files. -/
theorem confined_steady (hd : disk.WellFormed) (hlists : disk.locked = []) (hout : plan.output.Plain)
    {found : List Path}
    (hsuffix : ∀ f ∈ found, ∀ target, plan.target f = .ok target → target.suffix ≠ plan.rules.suffix) (h₀ : Halt)
    (place : List Text) :
    Steady plan.rules Progress.disk (confined found h₀ plan.documentBound) plan.input place disk fun _ => True where
  wellFormed := hd
  grows file p := by
    unfold confined
    split
    · exact (documentBound_documented plan file p).extends
    · exact .refl _
  reflects _ _ _ := trivial
  listable _ _ rel _ _ := by
    rw [hlists]
    rfl
  keeps rel hrel p p' hp ho _ := by
    unfold confined at ho
    split at ho
    · rename_i hmem
      exact grown_next hout hrel hp ho (hsuffix _ hmem)
    · cases ho

/-- How a later run goes: through the same files, or up to something that the first run has made too far down. -/
theorem visit_again (hd : disk.WellFormed) (hlists : disk.locked = []) (hout : plan.output.Plain)
    (hinput : plan.input.text.nameFault? = none) {base : List Text} {es : List (Text × Node)}
    (hroot : disk.locate true plan.input = .ok (.found base (.dir es)))
    (hsuffix : ∀ f ∈ (files plan.rules disk plan.input).state, ∀ target, plan.target f = .ok target →
      target.suffix ≠ plan.rules.suffix) {q : Progress} (hgrown : Grown plan.rules disk q.disk)
    (hend : (replay plan.documentBound (files plan.rules disk plan.input) q).halt = none) :
    visit plan.rules Progress.disk plan.documentBound plan.input q =
      replay plan.documentBound (files plan.rules disk plan.input) q ∨
    ∃ done rest t rel, (files plan.rules disk plan.input).state = done ++ rest ∧
      actAll plan.documentBound done q = .next t ∧ LongNew disk t.disk plan.input base rel ∧
      visit plan.rules Progress.disk plan.documentBound plan.input q =
        ⟨t, some (.system .nameTooLong (plan.input.below rel).text)⟩ := by
  -- The walk is compared with one that would be stopped at any other file.
  obtain ⟨h₀, hother⟩ : ∃ h₀ : Halt, ∀ f text, h₀ ≠ .system f text :=
    ⟨.failure (rootFailure plan.input), fun _ _ h => by cases h⟩
  let act := confined (files plan.rules disk plan.input).state h₀ plan.documentBound
  obtain ⟨es', hentered⟩ := hgrown.entered (entered_root hroot)
  have hvisit : visit plan.rules Progress.disk plan.documentBound plan.input q =
      visitDirectory plan.rules Progress.disk plan.documentBound Disk.pathLimit (plan.input.below []) q := by
    have hlocated := hentered.located
    rw [Path.below_nil] at hlocated ⊢
    have hdir := Disk.isDirectory_eq_true.mpr ⟨hinput, _, es', hlocated⟩
    rw [visit, hdir]
  have hreplays : Replays Progress.disk act disk plan.input base q
      (visitDirectory plan.rules Progress.disk act Disk.pathLimit (plan.input.below []) q) _ :=
    visitDirectory_replays (confined_steady hd hlists hout hsuffix h₀ base) (entered_root hroot) (Nat.zero_add _) hgrown
      trivial
  rw [← files_eq hinput hroot] at hreplays
  rw [hvisit]
  rcases hreplays with heq | ⟨done, rest, t, rel, hdone, hacts, hlong, hstop⟩
  · have hsame : replay act (files plan.rules disk plan.input) q =
        replay plan.documentBound (files plan.rules disk plan.input) q := by
      unfold replay
      rw [actAll_confined fun f hf => hf]
    rw [hsame] at heq
    refine .inl ((visitDirectory_confined ?_).trans heq)
    rw [heq, hend]
    exact (Option.some_ne_none h₀).symm
  · have hacts' : actAll plan.documentBound done q = .next t := by
      rw [← hacts]
      exact (actAll_confined (fun f hf => hdone ▸ List.mem_append_left _ hf) q).symm
    refine .inr ⟨done, rest, t, rel, hdone, hacts', hlong, (visitDirectory_confined ?_).trans hstop⟩
    rw [hstop]
    exact fun h => hother _ _ (Option.some.inj h).symm

/-- On files without links that can all be listed, let a run come to its end, with pages that have not the suffix of
sources. Then the same run once more comes to its end, writes the same pages and leaves the files exactly as they are,
unless it is stopped by something that the first run has made below the input directory at a path that is too long. -/
theorem run_again (plan : RunPlan) {disk : Disk} (log log' : Log) (hd : disk.WellFormed)
    (hfree : ∀ q t, disk.at? q ≠ some (.link t)) (hlists : disk.locked = []) (hout : plan.output.Plain)
    (hpages : ∀ t ∈ (plan.run disk log).state.written, t.suffix ≠ plan.rules.suffix)
    (hok : (plan.run disk log).halt = none) :
    ((plan.run (plan.run disk log).state.disk log').halt = none ∧
      (plan.run (plan.run disk log).state.disk log').state.written = (plan.run disk log).state.written ∧
      (plan.run (plan.run disk log).state.disk log').state.disk = (plan.run disk log).state.disk) ∨
    ∃ base es rel, disk.locate true plan.input = .ok (.found base (.dir es)) ∧
      LongNew disk (plan.run disk log).state.disk plan.input base rel ∧
      (plan.run (plan.run disk log).state.disk log').halt =
        some (.system .nameTooLong (plan.input.below rel).text) := by
  obtain ⟨hinput, ⟨base, es, hroot⟩, hhalt, p, hacts, hdisk, hwritten⟩ :=
    finished plan log hd hfree hlists hout hpages hok
  rw [hdisk, hwritten]
  have hsurvey : Surveys plan.rules disk plan.input base (fun _ => True) (files plan.rules disk plan.input) :=
    files_surveys hd hinput hroot
  have hharmless : plan.Harmless disk p := ⟨hwritten ▸ hpages, listsNew_of_unlocked hlists _⟩
  have hinitial : Grown plan.rules disk (plan.start disk log).disk := ⟨hd, .refl _, .refl _ _, hfree⟩
  have hgrown : Grown plan.rules disk p.disk :=
    (documentBound_steady hd hout hroot).actAll (hsurvey.names hd) hinitial hacts hharmless
  have hsuffix : ∀ f ∈ (files plan.rules disk plan.input).state, ∀ target, plan.target f = .ok target →
      target.suffix ≠ plan.rules.suffix :=
    fun f hf target htarget => hharmless.1 target ((actAll_targets hacts).2 f hf target htarget)
  have hstart : InStep plan disk p.disk (plan.start disk log) (plan.start p.disk log') :=
    ⟨.refl _, fun _ _ hfile => .inr hfile, hinitial, hgrown⟩
  obtain ⟨e, pages, hagain, hpages₁, hpages₂, hlast⟩ :=
    inStep_actAll hd hout hinput hroot (fun _ hf => hf) hsuffix hstart hacts (.refl _)
  have hreplay : replay plan.documentBound (files plan.rules disk plan.input) (plan.start p.disk log') = .next e := by
    rw [replay, hagain, hhalt]
    rfl
  obtain ⟨hhalt', hdisk', hwritten', _⟩ := andThen_finish
    (visit plan.rules Progress.disk plan.documentBound plan.input (plan.start p.disk log'))
  rw [← run_eq] at hhalt' hdisk' hwritten'
  rw [hhalt', hdisk', hwritten']
  have hended :
      (replay plan.documentBound (files plan.rules disk plan.input) (plan.start p.disk log')).halt = none := by
    rw [hreplay]
    rfl
  rcases visit_again (q := plan.start p.disk log') hd hlists hout hinput hroot hsuffix hgrown hended with
    heq | ⟨done, rest, t, rel, hdone, hacts', hlong, hstop⟩
  · left
    rw [heq, hreplay]
    refine ⟨rfl, ?_, ?_⟩
    · rw [hpages₁]
      exact hpages₂
    · exact hlast.shape.eq hgrown.wellFormed fun r c hr => (hlast.contents r c hr).elim id id
  · right
    rw [hstop]
    rw [hdone] at hacts
    have hshape :=
      inStep_initial hd hout hinput hroot (fun f hf => hdone ▸ List.mem_append_left _ hf) hsuffix hstart hacts hacts'
    exact ⟨base, es, rel, hroot, ⟨hlong.new, hshape.symm.extends.isSome hlong.present, hlong.long⟩, rfl⟩

/-- A plan for pages between the source files that show the name of the module. -/
def briefPlan : RunPlan := { nestedPlan with renderer := fun m => .ok m.name }

theorem run_again_nested :
    nestedTree.WellFormed ∧ (∀ q t, nestedTree.at? q ≠ some (.link t)) ∧ nestedTree.locked = [] ∧
    briefPlan.output.Plain ∧
    (∀ t ∈ (briefPlan.run nestedTree .unconfigured).state.written, t.suffix ≠ briefPlan.rules.suffix) ∧
    (briefPlan.run nestedTree .unconfigured).halt = none ∧
    (briefPlan.run (briefPlan.run nestedTree .unconfigured).state.disk .unconfigured).state.disk =
      (briefPlan.run nestedTree .unconfigured).state.disk := by
  have hd := nestedTree_wellFormed
  have hout : briefPlan.output.Plain := Path.plain_ofText _
  have hpages : ∀ t ∈ (briefPlan.run nestedTree .unconfigured).state.written,
      t.suffix ≠ briefPlan.rules.suffix := by
    intro t ht
    have hsuffix : briefPlan.pageSuffix = Path.dot :: Text.ofString "html" := by decide
    rw [run_pages_suffix briefPlan .unconfigured hd hout hsuffix (by decide) (by decide) t ht]
    decide
  have hok : (briefPlan.run nestedTree .unconfigured).halt = none := by cbv
  have hagain : (briefPlan.run (briefPlan.run nestedTree .unconfigured).state.disk .unconfigured).halt = none := by cbv
  refine ⟨hd, nestedTree_linkFree, rfl, hout, hpages, hok, ?_⟩
  rcases run_again briefPlan .unconfigured .unconfigured hd nestedTree_linkFree rfl hout hpages hok with
    ⟨_, _, hsame⟩ | ⟨_, _, _, _, _, hstop⟩
  · exact hsame
  · rw [hagain] at hstop
    cases hstop

end RunPlan

end ModuleDocs
