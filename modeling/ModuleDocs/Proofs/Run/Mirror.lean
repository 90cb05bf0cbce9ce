import Mathlib
import ModuleDocs.Proofs.Run.FailFast

/-!
# Pages mirror sources

The pages of the files that a walk finds lie below the output directory as the files lie below the input directory:
the same directories, and the name of the file with another suffix. Different files have different pages, and no
page lies outside the output directory.
-/

namespace ModuleDocs

open ModuleDocs.Path (above dot isName isSuffix slash splitSuffix)

/-! ### Names with another suffix -/

namespace Path

theorem isSuffix_cons {suffix : Text} (h : isSuffix suffix = true) (hne : suffix ≠ []) :
    slash ∉ suffix ∧ 2 ≤ suffix.length := by
  unfold isSuffix at h
  obtain ⟨hslash, hform⟩ := Bool.and_eq_true_iff.mp h
  refine ⟨by simpa using hslash, ?_⟩
  rcases Bool.or_eq_true_iff.mp hform with hempty | hdot
  · exact absurd (List.isEmpty_iff.mp hempty) hne
  · have hlen : suffix.length ≠ 1 := by simpa using (Bool.and_eq_true_iff.mp hdot).2
    have hpos := List.length_pos_iff.mpr hne
    omega

/-- The stem of a name with a suffix after it is a name: it is too long for a dot or two. -/
theorem isName_stem_append {name suffix : Text} (hname : isName name = true) (hs : isSuffix suffix = true)
    (hne : suffix ≠ []) : isName ((splitSuffix name).1 ++ suffix) = true := by
  obtain ⟨hslash, hlen⟩ := isSuffix_cons hs hne
  have hstem : 0 < (splitSuffix name).1.length :=
    List.length_pos_iff.mpr (splitSuffix_stem_ne_nil (isName_ne_nil hname))
  have hlong : 3 ≤ ((splitSuffix name).1 ++ suffix).length := by
    rw [List.length_append]
    omega
  have hvoid : isVoid ((splitSuffix name).1 ++ suffix) = false := by
    rw [Bool.eq_false_iff]
    intro h
    rcases Bool.or_eq_true_iff.mp h with h | h
    · rw [List.isEmpty_iff.mp h] at hlong
      exact absurd hlong (by decide)
    · rw [eq_of_beq h] at hlong
      exact absurd hlong (by decide)
  have hup : (splitSuffix name).1 ++ suffix ≠ above := by
    intro h
    rw [h] at hlong
    exact absurd hlong (by decide)
  have hclear : slash ∉ (splitSuffix name).1 ++ suffix := by
    intro h
    rcases List.mem_append.mp h with h | h
    · refine isPart_not_slash (isName_isPart hname) ?_
      rw [← splitSuffix_append name]
      exact List.mem_append_left _ h
    · exact hslash h
  rw [isName, isPart, hvoid]
  simp only [Bool.not_false, Bool.true_and, Bool.and_eq_true, bne_iff_ne]
  exact ⟨by simpa using hclear, hup⟩

end Path

/-! ### Pages of the files of a walk -/

namespace RunPlan

/-- Pages that lie below the output directory as their sources lie below the input directory. -/
structure Mirrors (plan : RunPlan) (files : List Path) : Prop where
  /-- A page has the directories and the stem of its file, and its parts are names: none is a dot or two. -/
  page : ∀ file ∈ files, ∃ dirs stem,
    file = plan.input.below (dirs ++ [stem ++ plan.rules.suffix]) ∧
    plan.target file = .ok (plan.output.below (dirs ++ [stem ++ plan.pageSuffix])) ∧
    ∀ part ∈ dirs ++ [stem ++ plan.pageSuffix], isName part = true
  distinct : ∀ f ∈ files, ∀ g ∈ files, f ≠ g → plan.target f ≠ plan.target g
  /-- Where the output directory has no links, a page is at a place below it. -/
  inside : ∀ d : Disk, d.LinkFree plan.output → ∀ file ∈ files, ∀ target spot, plan.target file = .ok target →
    d.locate true target = .ok spot →
      ∃ place es, d.locate true plan.output = .ok (.found place (.dir es)) ∧ place <+: spot.place

variable {plan : RunPlan}

theorem target_below {dirs : List Text} {name : Text} (hdirs : ∀ x ∈ dirs, isName x = true) (hname : name ≠ [])
    (hs : isSuffix plan.pageSuffix = true) (hne : plan.pageSuffix ≠ []) :
    plan.target (plan.input.below (dirs ++ [name])) =
      .ok (plan.output.below (dirs ++ [(splitSuffix name).1 ++ plan.pageSuffix])) := by
  rw [target, relative_below, ← Path.pageParts_eq hname hne]
  exact (pagePath_eq_ok hdirs hname).mpr ⟨hs, rfl⟩

theorem mirrors_of_ordered {files : List Path} (hsource : ∀ f ∈ files, f.suffix = plan.rules.suffix)
    (hord : Walk.Ordered plan.input [] files) (hs : isSuffix plan.pageSuffix = true) (hne : plan.pageSuffix ≠ []) :
    Mirrors plan files := by
  have hinput : ∀ f ∈ files, plan.IsInput f := by
    intro f hf
    obtain ⟨rel, hrel, hnames, he⟩ := hord.below f hf
    exact isInput_of_below hrel hnames he
  have hpage : ∀ f ∈ files, ∃ dirs stem, f = plan.input.below (dirs ++ [stem ++ plan.rules.suffix]) ∧
      plan.target f = .ok (plan.output.below (dirs ++ [stem ++ plan.pageSuffix])) ∧
      ∀ part ∈ dirs ++ [stem ++ plan.pageSuffix], isName part = true := by
    intro f hf
    have hsuffix := hsource f hf
    obtain ⟨dirs, name, hdirs, hname, rfl⟩ := hinput f hf
    rw [Path.below_snoc_suffix] at hsuffix
    have hstem := Path.isName_stem_append hname hs hne
    refine ⟨dirs, (splitSuffix name).1, ?_, target_below hdirs (Path.isName_ne_nil hname) hs hne, ?_⟩
    · rw [← hsuffix, Path.splitSuffix_append]
    · exact List.forall_mem_append.mpr ⟨hdirs, List.forall_mem_singleton.mpr hstem⟩
  refine ⟨hpage, fun f hf g hg hfg hsame => ?_, fun d hfree f hf target spot htarget hloc => ?_⟩
  · -- Files with different suffixes could have one page, but those of a walk have the same.
    obtain ⟨_, _, _, htarget, _⟩ := hpage f hf
    have hsuffix : f.suffix = g.suffix := (hsource f hf).trans (hsource g hg).symm
    exact hfg (target_inj hne (hinput f hf) (hinput g hg) hsuffix htarget (hsame ▸ htarget))
  · obtain ⟨dirs, stem, _, hpath, hnames⟩ := hpage f hf
    rw [htarget] at hpath
    cases hpath
    obtain ⟨place, es, hroot, hplace⟩ := hfree.place_below (by simp) hnames hloc
    exact ⟨place, es, hroot, _, hplace.symm⟩

/-- The pages of the files that a walk finds mirror them, be it a walk on files that stay as they are or the walk of
a run, which writes the pages meanwhile. -/
theorem pages_mirror_sources (plan : RunPlan) {disk : Disk} (log : Log) (hd : disk.WellFormed)
    (hout : plan.output.Plain) (hs : isSuffix plan.pageSuffix = true) (hne : plan.pageSuffix ≠ []) :
    Mirrors plan (Walk.files plan.rules disk plan.input).state ∧ Mirrors plan (plan.reached disk log) := by
  obtain ⟨hsource, hord⟩ := Walk.files_ordered plan.rules hd plan.input
  obtain ⟨htrail, hord'⟩ :
      Walk.Trail plan.rules Progress.disk plan.documentBound (plan.start disk log) (plan.reached disk log) _ ∧ _ :=
    Walk.visit_trail (documentBound_keeps hout) (plan.start disk log) hd
  exact ⟨mirrors_of_ordered hsource hord hs hne, mirrors_of_ordered htrail.suffix hord' hs hne⟩

/-- A plan for pages of the files that would have one page if pages had no suffix. -/
def suffixPlan : RunPlan := { barePlan with pageSuffix := ".html" }

theorem pages_mirror_twins :
    twinTree.WellFormed ∧ suffixPlan.output.Plain ∧ isSuffix suffixPlan.pageSuffix = true ∧
    suffixPlan.pageSuffix ≠ [] ∧
    (Walk.files suffixPlan.rules twinTree suffixPlan.input).state =
      [Path.ofText "in/d/..py", Path.ofText "in/d.py"] ∧
    suffixPlan.target (Path.ofText "in/d/..py") = .ok (Path.ofText "out/d/..html") ∧
    suffixPlan.target (Path.ofText "in/d/..py") ≠ suffixPlan.target (Path.ofText "in/d.py") := by
  have hd : twinTree.WellFormed := by decide
  have hout : suffixPlan.output.Plain := Path.plain_ofText _
  have hs : isSuffix suffixPlan.pageSuffix = true := by decide
  have hne : suffixPlan.pageSuffix ≠ [] := by decide
  have hfiles : (Walk.files suffixPlan.rules twinTree suffixPlan.input).state =
      [Path.ofText "in/d/..py", Path.ofText "in/d.py"] := by cbv
  have hmirror := (pages_mirror_sources suffixPlan .unconfigured hd hout hs hne).1
  rw [hfiles] at hmirror
  refine ⟨hd, hout, hs, hne, hfiles, by decide, hmirror.distinct _ ?_ _ ?_ (by decide)⟩
  · exact List.mem_cons_self ..
  · exact List.mem_cons_of_mem _ (List.mem_singleton_self _)

end RunPlan

end ModuleDocs
