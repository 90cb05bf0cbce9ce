import ModuleDocs.Proofs.Run.Mirror
import ModuleDocs.Settings.Load

/-!
# Suffixes of pages

Two tests decide about the suffix of pages: settings take every text that is not empty, and put a dot before it if it
has none; a path takes a dot with something after it, and no slash. A run has a page for every file of its walk exactly
if the text passes both, and for none of them otherwise.
-/

namespace ModuleDocs

open ModuleDocs.Path (dot isName isSuffix slash)

/-! ### Settings from values -/

namespace Settings

/-- Every setting is the standard one or comes from an accepted value. -/
structure Checked (value : SettingSources.Supply) (s : Settings) : Prop where
  sourceSuffix : check .sourceSuffix standard.sourceSuffix toSuffix (value .sourceSuffix) = (s.sourceSuffix, [])
  outputSuffix : check .outputSuffix standard.outputSuffix toSuffix (value .outputSuffix) = (s.outputSuffix, [])
  skipPatterns : checkPatterns (value .skipPatterns) = (s.skipPatterns, [])
  includePrivate : check .includePrivate standard.includePrivate toBool (value .includePrivate) = (s.includePrivate, [])
  attributeDocstrings : check .attributeDocstrings standard.attributeDocstrings toBool (value .attributeDocstrings) =
    (s.attributeDocstrings, [])
  logLevel : check .logLevel standard.logLevel toLevel (value .logLevel) = (s.logLevel, [])
  jsonLogs : check .jsonLogs standard.jsonLogs toChoice (value .jsonLogs) = (s.jsonLogs, [])

theorem ofValues_eq_ok {value : SettingSources.Supply} {s : Settings} :
    ofValues value = .ok s ↔ Checked value s := by
  constructor
  · intro h
    unfold ofValues at h
    rcases h₁ : check .sourceSuffix standard.sourceSuffix toSuffix (value .sourceSuffix) with ⟨a₁, e₁⟩
    rcases h₂ : check .outputSuffix standard.outputSuffix toSuffix (value .outputSuffix) with ⟨a₂, e₂⟩
    rcases h₃ : checkPatterns (value .skipPatterns) with ⟨a₃, e₃⟩
    rcases h₄ : check .includePrivate standard.includePrivate toBool (value .includePrivate) with ⟨a₄, e₄⟩
    rcases h₅ : check .attributeDocstrings standard.attributeDocstrings toBool (value .attributeDocstrings)
      with ⟨a₅, e₅⟩
    rcases h₆ : check .logLevel standard.logLevel toLevel (value .logLevel) with ⟨a₆, e₆⟩
    rcases h₇ : check .jsonLogs standard.jsonLogs toChoice (value .jsonLogs) with ⟨a₇, e₇⟩
    rw [h₁, h₂, h₃, h₄, h₅, h₆, h₇] at h
    dsimp only at h
    split at h
    · rename_i hfaults
      simp only [List.append_eq_nil_iff] at hfaults
      obtain ⟨⟨⟨⟨⟨⟨rfl, rfl⟩, rfl⟩, rfl⟩, rfl⟩, rfl⟩, rfl⟩ := hfaults
      cases h
      exact ⟨h₁, h₂, h₃, h₄, h₅, h₆, h₇⟩
    · cases h
  · intro h
    unfold ofValues
    rw [h.sourceSuffix, h.outputSuffix, h.skipPatterns, h.includePrivate, h.attributeDocstrings, h.logLevel, h.jsonLogs]
    rfl

theorem load_eq_ok {readers : SettingReaders} {sources : SettingSources} {s : Settings} :
    load readers sources = .ok s ↔ ∃ value, sources.values readers = .ok value ∧ Checked value s := by
  unfold load
  cases hvalues : sources.values readers with
  | error f => simp [bind, Except.bind]
  | ok value => simp [bind, Except.bind, ofValues_eq_ok]

theorem check_eq_ok {α : Type} {setting : Setting} {standard a : α} {accept : Value → Except ValueFault α}
    {v : Option Value} : check setting standard accept v = (a, []) ↔
      v = none ∧ a = standard ∨ ∃ w, v = some w ∧ accept w = .ok a := by
  unfold check
  cases v with
  | none => simp [eq_comm]
  | some w => cases hw : accept w <;> simp [hw]

/-! ### Suffixes -/

/-- A text with a dot before it, unless it starts with one. -/
def dotted (t : Text) : Text := if t.head? = some dot then t else dot :: t

theorem toSuffix_cons (c : CodePoint) (cs : Text) : toSuffix (.str (c :: cs)) = .ok (dotted (c :: cs)) := by
  have hcases : toSuffix (.str (c :: cs)) = if c = dot then .ok (c :: cs) else .ok (dot :: c :: cs) := rfl
  rw [hcases]
  by_cases hc : c = dot
  · simp [dotted, hc]
  · simp [dotted, hc]

theorem toSuffix_eq_ok {v : Value} {s : Text} : toSuffix v = .ok s ↔ ∃ t, v = .str t ∧ t ≠ [] ∧ s = dotted t := by
  constructor
  · intro h
    cases v with
    | str t =>
      cases t with
      | nil => cases h
      | cons c cs =>
        rw [toSuffix_cons] at h
        cases h
        exact ⟨_, rfl, List.cons_ne_nil c cs, rfl⟩
    | _ => cases h
  · rintro ⟨t, rfl, hne, rfl⟩
    obtain ⟨c, cs, rfl⟩ := List.exists_cons_of_ne_nil hne
    exact toSuffix_cons c cs

/-- Of the texts that settings take, those that a path takes as well. -/
theorem isSuffix_dotted {t : Text} (ht : t ≠ []) : isSuffix (dotted t) = true ↔ t ≠ [dot] ∧ slash ∉ t := by
  obtain ⟨c, cs, rfl⟩ := List.exists_cons_of_ne_nil ht
  have hslash : slash ≠ dot := by decide
  by_cases hc : c = dot
  · subst hc
    simp [isSuffix, dotted, hslash, and_comm]
  · have hsame : dotted (c :: cs) = dot :: c :: cs := by simp [dotted, hc]
    rw [hsame]
    simp [isSuffix, hslash, hc]

/-- The suffix of pages in settings that are loaded comes from a text that is given, or else from the standard one. -/
theorem load_outputSuffix {readers : SettingReaders} {sources : SettingSources} {s : Settings}
    (h : load readers sources = .ok s) :
    ∃ value given, sources.values readers = .ok value ∧
      (value .outputSuffix).getD (.str standard.outputSuffix) = .str given ∧ given ≠ [] ∧
      s.outputSuffix = dotted given := by
  obtain ⟨value, hvalues, hchecked⟩ := load_eq_ok.mp h
  rcases check_eq_ok.mp hchecked.outputSuffix with ⟨hnone, hs⟩ | ⟨v, hsome, hv⟩
  · refine ⟨value, standard.outputSuffix, hvalues, by rw [hnone]; rfl, by decide, ?_⟩
    rw [hs]
    decide
  · obtain ⟨given, rfl, hne, hs⟩ := toSuffix_eq_ok.mp hv
    exact ⟨value, given, hvalues, by rw [hsome]; rfl, hne, hs⟩

end Settings

/-! ### Pages of a walk -/

namespace RunPlan

variable {plan : RunPlan}

theorem isInput_of_mem_files {d : Disk} (hd : d.WellFormed) {file : Path}
    (hfile : file ∈ (Walk.files plan.rules d plan.input).state) : plan.IsInput file := by
  obtain ⟨_, hord⟩ := Walk.files_ordered plan.rules hd plan.input
  obtain ⟨rel, hrel, hnames, he⟩ := hord.below file hfile
  exact isInput_of_below hrel hnames he

theorem target_ok_iff {file : Path} (hfile : plan.IsInput file) :
    (∃ page, plan.target file = .ok page) ↔ isSuffix plan.pageSuffix = true := by
  obtain ⟨dirs, name, hdirs, hname, rfl⟩ := hfile
  rw [target, relative_below]
  constructor
  · rintro ⟨page, hpage⟩
    exact ((pagePath_eq_ok hdirs (Path.isName_ne_nil hname)).mp hpage).1
  · intro hs
    exact ⟨_, (pagePath_eq_ok hdirs (Path.isName_ne_nil hname)).mpr ⟨hs, rfl⟩⟩

theorem target_badSuffix (file : Path) (hs : isSuffix plan.pageSuffix = false) :
    plan.target file = .error (.badSuffix plan.pageSuffix) := by
  simp [target, pagePath, Path.withSuffix, hs, bind, Except.bind]

end RunPlan

/-- With the suffix of settings that are loaded, the files of a walk have a page exactly if the text that was given for
the suffix is not a single dot and has no slash. Otherwise none of them has. -/
theorem Settings.load_suffix_usable {readers : SettingReaders} {sources : SettingSources} {s : Settings}
    (h : Settings.load readers sources = .ok s) :
    ∃ value given, sources.values readers = .ok value ∧
      (value .outputSuffix).getD (.str standard.outputSuffix) = .str given ∧ s.outputSuffix = dotted given ∧
      ∀ plan : RunPlan, plan.pageSuffix = s.outputSuffix → ∀ disk : Disk, disk.WellFormed →
        ∀ file ∈ (Walk.files plan.rules disk plan.input).state,
          ((∃ page, plan.target file = .ok page) ↔ given ≠ [dot] ∧ slash ∉ given) ∧
          (¬ (given ≠ [dot] ∧ slash ∉ given) → plan.target file = .error (.badSuffix s.outputSuffix)) := by
  obtain ⟨value, given, hvalues, hgiven, hne, hs⟩ := load_outputSuffix h
  refine ⟨value, given, hvalues, hgiven, hs, fun plan hplan disk hd file hfile => ?_⟩
  have hsuffix : isSuffix plan.pageSuffix = true ↔ given ≠ [dot] ∧ slash ∉ given := by
    rw [hplan, hs]
    exact isSuffix_dotted hne
  refine ⟨(RunPlan.target_ok_iff (RunPlan.isInput_of_mem_files hd hfile)).trans hsuffix, fun hbad => ?_⟩
  rw [← hplan]
  exact RunPlan.target_badSuffix file (Bool.eq_false_iff.mpr fun hgood => hbad (hsuffix.mp hgood))

def dotSources : SettingSources := ⟨[(Text.ofString "output_suffix", .ofString ".")], [], []⟩

/-- Settings take a single dot, and the files of a walk have no page then. -/
theorem Settings.load_suffix_dot :
    Settings.load .standard dotSources = .ok { Settings.standard with outputSuffix := [dot] } ∧
    RunPlan.target { RunPlan.barePlan with pageSuffix := [dot] } (Path.ofText "in/d.py") =
      .error (.badSuffix [dot]) := by
  have hload : Settings.load .standard dotSources = .ok { Settings.standard with outputSuffix := [dot] } := by cbv
  refine ⟨hload, ?_⟩
  obtain ⟨value, given, hvalues, hgiven, _, husable⟩ := Settings.load_suffix_usable hload
  have hvalue : (dotSources.values .standard).map (fun v => v .outputSuffix) = .ok (some (.str [dot])) := by cbv
  rw [hvalues] at hvalue
  have hdot : given = [dot] := by
    have hsome : value .outputSuffix = some (.str [dot]) := Except.ok.inj hvalue
    rw [hsome] at hgiven
    cases hgiven
    rfl
  have hd : RunPlan.twinTree.WellFormed := by decide
  have hfiles : (Walk.files RunPlan.barePlan.rules RunPlan.twinTree RunPlan.barePlan.input).state =
      [Path.ofText "in/d/..py", Path.ofText "in/d.py"] := by cbv
  have hfile : Path.ofText "in/d.py" ∈
      (Walk.files RunPlan.barePlan.rules RunPlan.twinTree RunPlan.barePlan.input).state := by
    rw [hfiles]
    exact List.mem_cons_of_mem _ (List.mem_singleton_self _)
  exact (husable { RunPlan.barePlan with pageSuffix := [dot] } rfl RunPlan.twinTree hd _ hfile).2 fun h => h.1 hdot

end ModuleDocs
