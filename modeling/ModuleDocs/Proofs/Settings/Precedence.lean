import ModuleDocs.Command.Basic
import ModuleDocs.Proofs.Settings.Accepted
import ModuleDocs.Proofs.Settings.Sources

/-!
# Precedence of settings

A setting takes the value of the first source that supplies it: the options, the configuration, the environment, the
variable file. What the sources have under other names does not reach it, unless a value in the variable file refers
to another variable.
-/

namespace ModuleDocs

open Entries (put)
open Text (ofString)
open ModuleDocs.Path (dot)

/-! ### Texts of variables -/

/-- The value that the text of a variable supplies. Lists are written as JSON, and null supplies nothing. -/
def Setting.written? (n : Setting) (t : Text) : Option Value :=
  if n = .skipPatterns then
    match t.toChars?.bind Json.parse? with
    | some .null => none
    | v => v
  else some (.str t)

theorem SettingsFault.ofText_eq_ok {n : Setting} {source : TextSource} {t : Text} {v : Option Value}
    (h : SettingsFault.ofText n source t = .ok v) : v = n.written? t := by
  unfold SettingsFault.ofText at h
  unfold Setting.written?
  by_cases hn : n = .skipPatterns
  · rw [if_pos hn] at h ⊢
    cases hparsed : t.toChars?.bind Json.parse? with
    | none =>
      rw [hparsed] at h
      cases h
    | some w =>
      rw [hparsed] at h
      cases w <;> (cases h; rfl)
  · rw [if_neg hn] at h ⊢
    cases h
    rfl

namespace SettingSources

variable {readers : SettingReaders} {sources : SettingSources}

def exported? (environment : List (Text × Text)) (n : Setting) : Option Value :=
  (lastNamed? n.variableName environment).bind n.written?

def filed? (readers : SettingReaders) (environment : List (Text × Text)) (t : Text) (n : Setting) : Option Value :=
  (lastNamed? n.variableName (VariableFile.read readers.expand environment (readers.bindings t))).join.bind n.written?

theorem fromEnvironment_eq_ok {n : Setting} {v : Option Value} (h : sources.fromEnvironment n = .ok v) :
    v = exported? sources.environment n := by
  unfold fromEnvironment at h
  unfold exported?
  cases hlast : lastNamed? n.variableName sources.environment with
  | none =>
    rw [hlast] at h
    cases h
    rfl
  | some t =>
    rw [hlast] at h
    exact SettingsFault.ofText_eq_ok h

theorem fromVariables_eq_ok {n : Setting} {v : Option Value} (h : sources.fromVariables readers n = .ok v) :
    v = filed? readers sources.environment sources.variableFile n := by
  unfold fromVariables at h
  unfold filed?
  dsimp only at h
  generalize VariableFile.read readers.expand sources.environment (readers.bindings sources.variableFile) = es at h ⊢
  cases hlast : lastNamed? n.variableName es with
  | none =>
    rw [hlast] at h
    cases h
    rfl
  | some value =>
    rw [hlast] at h
    cases value with
    | none =>
      cases h
      rfl
    | some t => exact SettingsFault.ofText_eq_ok h

theorem lookup_of_mapM {read : Setting → Except SettingsFault (Option Value)} {ns : List Setting}
    {pairs : List (Setting × Option Value)} (h : (ns.mapM fun n => do return (n, ← read n)) = .ok pairs)
    {n : Setting} (hn : n ∈ ns) : read n = .ok (pairs.lookup n).join := by
  induction ns generalizing pairs with
  | nil => cases hn
  | cons m ns ih =>
    rw [List.mapM_cons] at h
    obtain ⟨pair, hpair, h⟩ := bind_eq_ok.mp h
    obtain ⟨v, hv, hpair⟩ := bind_eq_ok.mp hpair
    obtain ⟨rest, hrest, h⟩ := bind_eq_ok.mp h
    cases hpair
    cases h
    by_cases hm : n = m
    · subst hm
      simpa using hv
    · have hne : (n == m) = false := beq_eq_false_iff_ne.mpr hm
      rw [List.lookup_cons, hne]
      exact ih hrest ((List.mem_cons.mp hn).resolve_left hm)

theorem supply_eq_ok {read : Setting → Except SettingsFault (Option Value)} {f : Supply} (h : supply read = .ok f)
    (n : Setting) : read n = .ok (f n) := by
  obtain ⟨pairs, hpairs, h⟩ := bind_eq_ok.mp h
  cases h
  exact lookup_of_mapM hpairs (by cases n <;> decide)

/-- The values of settings come from the first source that supplies them. -/
theorem values_eq_ok {value : Supply} (h : sources.values readers = .ok value) (n : Setting) :
    value n = (readers.keyword? sources.given n).or
      ((exported? sources.environment n).or (filed? readers sources.environment sources.variableFile n)) := by
  obtain ⟨environment, henvironment, h⟩ := bind_eq_ok.mp h
  obtain ⟨fromFile, hfile, h⟩ := bind_eq_ok.mp h
  cases h
  rw [← fromEnvironment_eq_ok (supply_eq_ok henvironment n), ← fromVariables_eq_ok (supply_eq_ok hfile n)]

end SettingSources

/-! ### Options -/

namespace Command

theorem lower_name {n m : Setting} : nameLower (ofString n.name) = ofString m.name ↔ n = m := by
  cases n <;> cases m <;> decide

namespace Given

/-- What the options supply for a setting. A flag that is not set supplies nothing. -/
def supplied? (g : Given) : Setting → Option Value
  | .sourceSuffix => g.sourceSuffix.map .str
  | .outputSuffix => g.outputSuffix.map .str
  | .skipPatterns => none
  | .includePrivate => if g.includePrivate then some (.bool true) else none
  | .attributeDocstrings => none
  | .logLevel => g.logLevel.map .str
  | .jsonLogs => if g.jsonLogs then some (.bool true) else none

def entries (g : Given) (n : Setting) : List (Text × Value) :=
  (g.supplied? n).toList.map fun v => (ofString n.name, v)

theorem entries_text (name : Text) (v : Option Text) :
    ((v.map Value.str).toList.map fun w => (name, w)) = v.toList.map fun t => (name, .str t) := by
  cases v <;> rfl

theorem entries_flag (name : Text) (b : Bool) :
    ((if b then some (Value.bool true) else none).toList.map fun w => (name, w)) =
      if b then [(name, .bool true)] else [] := by
  cases b <;> rfl

theorem values_eq (g : Given) : g.values = Setting.all.flatMap g.entries := by
  simp only [values, Setting.all, List.flatMap_cons, List.flatMap_nil, entries, supplied?, entries_text, entries_flag,
    Setting.name, Option.toList_none, List.map_nil, List.nil_append, List.append_nil, List.append_assoc]

theorem named_entries (g : Given) (n m : Setting) :
    named (ofString n.name) (g.entries m) = if m = n then g.entries n else [] := by
  have hlower : ∀ e ∈ g.entries m, (nameLower e.1 == ofString n.name) = decide (m = n) := by
    intro e he
    obtain ⟨v, _, rfl⟩ := List.mem_map.mp he
    exact Bool.eq_iff_iff.mpr (by simp [lower_name])
  rw [named, List.filter_congr hlower]
  by_cases hm : m = n
  · simp [hm]
  · simp [hm]

theorem named_values (g : Given) (n : Setting) : named (ofString n.name) g.values = g.entries n := by
  have hflat : named (ofString n.name) g.values = Setting.all.flatMap fun m => if m = n then g.entries n else [] := by
    rw [values_eq, named, List.filter_flatMap]
    exact List.flatMap_congr fun m _ => named_entries g n m
  rw [hflat]
  cases n <;> simp [Setting.all]

/-- The options count before the configuration. -/
theorem keyword?_overridden {readers : SettingReaders} (hreaders : readers.Lawful) (g : Given) (n : Setting)
    (configuration : List (Text × Value)) :
    readers.keyword? (g.values.foldl (fun es e => put es e.1 e.2) configuration) n =
      (g.supplied? n).or (readers.keyword? configuration n) := by
  cases hv : g.supplied? n with
  | none =>
    refine hreaders.apart ?_
    rw [named_foldl_put, named_values, entries, hv]
    rfl
  | some v =>
    rw [Option.some_or, ← hreaders.own configuration n v]
    refine hreaders.apart ?_
    have hentries : g.entries n = [(ofString n.name, v)] := by rw [entries, hv]; rfl
    have hput : put configuration (ofString n.name) v =
        [(ofString n.name, v)].foldl (fun es e => put es e.1 e.2) configuration := rfl
    have hown : named (ofString n.name) [(ofString n.name, v)] = [(ofString n.name, v)] := by
      simp [named, lower_name]
    rw [hput, named_foldl_put, named_foldl_put, named_values, hentries, hown]

theorem keys_entries (g : Given) (ns : List Setting) :
    ((ns.flatMap g.entries).map Prod.fst).Sublist (ns.map fun n => ofString n.name) := by
  induction ns with
  | nil => exact .slnil
  | cons n ns ih =>
    have hone : ((g.entries n).map Prod.fst).Sublist [ofString n.name] := by
      unfold entries
      cases g.supplied? n with
      | none => exact List.nil_sublist _
      | some v => exact List.Sublist.refl _
    rw [List.flatMap_cons, List.map_append, List.map_cons]
    exact hone.append ih

/-- No option is given twice. -/
theorem foldl_put_values (g : Given) : g.values.foldl (fun es e => put es e.1 e.2) [] = g.values := by
  have hnodup : (([] ++ g.values).map Prod.fst).Nodup := by
    rw [List.nil_append, values_eq]
    exact (keys_entries g Setting.all).nodup (by decide)
  exact Entries.putAll_eq_append hnodup

end Given

/-! ### Commands -/

/-- What the sources of settings have. -/
@[ext]
structure Origins where
  options : Given
  configuration : List (Text × Value)
  environment : List (Text × Text)
  /-- The text of the variable file. -/
  variableFile : Text

namespace Origins

open SettingSources (exported? filed?)
open VariableFile (Closed within)

/-- The value of a setting in the first source that supplies it. -/
def first? (readers : SettingReaders) (o : Origins) (n : Setting) : Option Value :=
  (o.options.supplied? n).or ((readers.keyword? o.configuration n).or
    ((exported? o.environment n).or (filed? readers o.environment o.variableFile n)))

/-- The sources that a command reads. -/
structure Feeds (o : Origins) (call : Call) (disk : Disk) (given : Given) : Prop where
  options : o.options = given
  configuration : given.config = none ∧ o.configuration = [] ∨
    ∃ config text, given.config = some config ∧ configurationText disk (Path.ofText config) = .ok text ∧
      Settings.ofConfiguration call.readers text = .ok o.configuration
  environment : o.environment = call.environment
  variableFile : variableText disk = .ok o.variableFile

/-- Two collections of sources have the same entries for a setting, and under the names that these refer to. -/
structure SameFor (readers : SettingReaders) (n : Setting) (reach : Text → Bool) (o o' : Origins) : Prop where
  options : o.options.supplied? n = o'.options.supplied? n
  configuration : named (ofString n.name) o.configuration = named (ofString n.name) o'.configuration
  environment : named n.variableName o.environment = named n.variableName o'.environment
  own : ∀ name, nameLower name = n.variableName → reach name = true
  closed : Closed reach (readers.bindings o.variableFile)
  variableFile : within reach (readers.bindings o.variableFile) = within reach (readers.bindings o'.variableFile)
  references : ∀ name, reach name = true → o.environment.lookup name = o'.environment.lookup name

variable {readers : SettingReaders} {o o' : Origins} {call : Call} {disk : Disk} {given : Given} {s : Settings}

def merged (o : Origins) : SettingSources :=
  ⟨o.options.values.foldl (fun es e => put es e.1 e.2) o.configuration, o.environment, o.variableFile⟩

theorem Feeds.settings_eq (h : o.Feeds call disk given) :
    settings call disk given = (Settings.load call.readers o.merged).mapError .settings := by
  obtain ⟨rfl, hconfiguration, henvironment, hfile⟩ := h
  unfold settings merged
  rw [henvironment, hfile]
  rcases hconfiguration with ⟨hnone, hnil⟩ | ⟨config, text, hsome, htext, hentries⟩
  · rw [hnone, hnil, Given.foldl_put_values]
    rfl
  · have hmerged : Settings.withConfiguration call.readers text o.options.values =
        .ok (o.options.values.foldl (fun es e => put es e.1 e.2) o.configuration) := by
      unfold Settings.withConfiguration
      rw [hentries]
      rfl
    rw [hsome]
    dsimp only
    rw [htext]
    simp only [bind, Except.bind, hmerged, Except.mapError]

theorem exists_feeds (h : settings call disk given = .ok s) : ∃ o : Origins, o.Feeds call disk given := by
  unfold settings at h
  cases hconfig : given.config with
  | none =>
    rw [hconfig] at h
    obtain ⟨values, _, h⟩ := bind_eq_ok.mp h
    obtain ⟨text, hfile, _⟩ := bind_eq_ok.mp h
    exact ⟨⟨given, [], call.environment, text⟩, rfl, Or.inl ⟨hconfig, rfl⟩, rfl, hfile⟩
  | some config =>
    rw [hconfig] at h
    obtain ⟨yaml, hyaml, h⟩ := bind_eq_ok.mp h
    obtain ⟨values, hvalues, h⟩ := bind_eq_ok.mp h
    obtain ⟨text, hfile, _⟩ := bind_eq_ok.mp h
    obtain ⟨configuration, hentries, _⟩ := bind_eq_ok.mp (mapError_eq_ok.mp hvalues)
    exact ⟨⟨given, configuration, call.environment, text⟩, rfl, Or.inr ⟨config, yaml, hconfig, hyaml, hentries⟩, rfl,
      hfile⟩

/-- A command has its sources from its call and its files alone. -/
theorem Feeds.unique (h : o.Feeds call disk given) (h' : o'.Feeds call disk given) : o = o' := by
  have hconfiguration : o.configuration = o'.configuration := by
    rcases h.configuration with ⟨hnone, hnil⟩ | ⟨config, text, hsome, htext, hentries⟩
    · rcases h'.configuration with ⟨_, hnil'⟩ | ⟨config', text', hsome', _, _⟩
      · rw [hnil, hnil']
      · cases hnone.symm.trans hsome'
    · rcases h'.configuration with ⟨hnone', _⟩ | ⟨config', text', hsome', htext', hentries'⟩
      · cases hnone'.symm.trans hsome
      · cases hsome.symm.trans hsome'
        cases htext.symm.trans htext'
        exact Except.ok.inj (hentries.symm.trans hentries')
  have hfile : o.variableFile = o'.variableFile := Except.ok.inj (h.variableFile.symm.trans h'.variableFile)
  have hoptions : o.options = o'.options := h.options.trans h'.options.symm
  have henvironment : o.environment = o'.environment := h.environment.trans h'.environment.symm
  exact Origins.ext hoptions hconfiguration henvironment hfile

theorem merged_values (hreaders : readers.Lawful) {value : SettingSources.Supply}
    (h : o.merged.values readers = .ok value) (n : Setting) : value n = o.first? readers n := by
  have hgiven : readers.keyword? o.merged.given n =
      (o.options.supplied? n).or (readers.keyword? o.configuration n) :=
    o.options.keyword?_overridden hreaders n o.configuration
  rw [SettingSources.values_eq_ok h, hgiven, first?, Option.or_assoc]
  rfl

theorem SameFor.filed?_eq (hreaders : readers.Lawful) {n : Setting} {reach : Text → Bool}
    (h : SameFor readers n reach o o') :
    filed? readers o.environment o.variableFile n = filed? readers o'.environment o'.variableFile n := by
  unfold filed?
  rw [lastNamed?_eq, lastNamed?_eq,
    VariableFile.named_read_congr hreaders.expand h.own h.closed h.variableFile h.references]

theorem SameFor.first?_eq (hreaders : readers.Lawful) {n : Setting} {reach : Text → Bool}
    (h : SameFor readers n reach o o') : o.first? readers n = o'.first? readers n := by
  have hexported : exported? o.environment n = exported? o'.environment n := by
    rw [exported?, exported?, lastNamed?_eq, lastNamed?_eq, h.environment]
  rw [first?, first?, h.options, hreaders.apart h.configuration, hexported, h.filed?_eq hreaders]

end Origins

/-- Settings as their sources make them. -/
structure Layered (readers : SettingReaders) (o : Origins) (s : Settings) : Prop where
  /-- A setting comes from the first source that supplies it. -/
  first : ∀ n : Setting, n.Takes (o.first? readers n) (s.get n)
  /-- The configuration supplies a setting if it has an entry for it, by the value of such an entry. -/
  configured : ∀ n : Setting,
    (readers.keyword? o.configuration n = none ∧ named (ofString n.name) o.configuration = []) ∨
      ∃ e ∈ named (ofString n.name) o.configuration, readers.keyword? o.configuration n = some e.2
  /-- What the sources have for one setting, or under a name of no setting, does not reach another setting. -/
  apart : ∀ {call : Call} {disk : Disk} {given : Given} {s' : Settings} {o' : Origins}, call.readers = readers →
    o'.Feeds call disk given → settings call disk given = .ok s' →
      ∀ (n : Setting) (reach : Text → Bool), Origins.SameFor readers n reach o o' → s.get n = s'.get n
  sourceSuffix : s.sourceSuffix.head? = some dot
  outputSuffix : s.outputSuffix.head? = some dot
  logLevel : s.logLevel ∈ Settings.levels

theorem dotted_head? (t : Text) : (Settings.dotted t).head? = some dot := by
  unfold Settings.dotted
  by_cases ht : t.head? = some dot
  · rw [if_pos ht, ht]
  · rw [if_neg ht]
    rfl

theorem Origins.Feeds.checked {o : Origins} {call : Call} {disk : Disk} {given : Given} {s : Settings}
    (hfeeds : o.Feeds call disk given) (h : settings call disk given = .ok s) :
    ∃ value, o.merged.values call.readers = .ok value ∧ Settings.Checked value s := by
  rw [hfeeds.settings_eq] at h
  exact Settings.load_eq_ok.mp (mapError_eq_ok.mp h)

/-- A variable under a name of no setting, and a setting that refers to it. -/
def referringFile : Text := "FOO=.x\nDOCMIRROR_SOURCE_SUFFIX=$\x7bFOO:-.pyi\x7d\n"

def forlornFile : Text := "DOCMIRROR_SOURCE_SUFFIX=$\x7bFOO:-.pyi\x7d\n"

/-- A configuration and a variable file. -/
def mixedTree : Disk :=
  let file (s : String) : Node := .file (s.toList.flatMap String.utf8EncodeChar)
  ⟨.dir [(ofString ".env", file "DOCMIRROR_JSON_LOGS=on\nDOCMIRROR_SOURCE_SUFFIX=a\n"),
    (ofString "c", file "json_logs: no")], [], {}⟩

/-- A call with variables for two settings. -/
def mixedCall : Call :=
  ⟨[], [(ofString "DOCMIRROR_JSON_LOGS", ofString "1"), (ofString "Docmirror_Output_Suffix", ofString "b")], .standard,
    Console.printer .empty 80⟩

def mixedOptions : Given := ⟨some (ofString "c"), none, none, true, none, false⟩

def mixedOrigins : Origins :=
  ⟨mixedOptions, [(ofString "json_logs", .bool false)], mixedCall.environment,
    "DOCMIRROR_JSON_LOGS=on\nDOCMIRROR_SOURCE_SUFFIX=a\n"⟩

def mixedSettings : Settings :=
  { Settings.standard with sourceSuffix := ".a", outputSuffix := ".b", includePrivate := true, jsonLogs := some false }

theorem mixedOrigins_feeds : mixedOrigins.Feeds mixedCall mixedTree mixedOptions where
  options := rfl
  configuration := by
    have htext : configurationText mixedTree (Path.ofText "c") = .ok "json_logs: no" := by cbv
    have hentries : Settings.ofConfiguration .standard "json_logs: no" = .ok [(ofString "json_logs", .bool false)] := by
      cbv
    exact Or.inr ⟨_, _, rfl, htext, hentries⟩
  environment := rfl
  variableFile := by cbv

theorem settings_mixed : settings mixedCall mixedTree mixedOptions = .ok mixedSettings := by
  have hload : Settings.load .standard mixedOrigins.merged = .ok mixedSettings := by decide +kernel
  rw [mixedOrigins_feeds.settings_eq]
  exact congrArg (Except.mapError StopReason.settings) hload

end Command

end ModuleDocs
