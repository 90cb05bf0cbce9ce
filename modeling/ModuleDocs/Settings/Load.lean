import ModuleDocs.Settings.Basic
import ModuleDocs.Settings.VariableFile
import ModuleDocs.Yaml.Document

/-!
# Loading settings

Every setting takes its value from the first of these that supplies it: the given values, the environment,
a variable file, and the standard settings. Names count without regard to case. How files are read, and which of the
given values counts for a setting, is left to `SettingReaders`.
-/

namespace ModuleDocs

/-- Where settings come from. -/
structure SettingSources where
  /-- Values that are given, by the name of the setting. -/
  given : List (Text × Value)
  environment : List (Text × Text)
  /-- The text of the variable file. -/
  variableFile : Text
  deriving Repr

/-- The sources that hold values as text. -/
inductive TextSource where
  | environment
  | variableFile
  deriving Repr, DecidableEq

/-- Why there are no settings. -/
inductive SettingsFault where
  /-- Values that are not accepted. -/
  | invalid (faults : List SettingFault)
  /-- The text of a value is not JSON where it has to be. -/
  | notJson (setting : Setting) (source : TextSource)
  /-- The configuration is not YAML. -/
  | notYaml
  /-- The configuration is not a mapping but a value of this kind. -/
  | notMapping (kind : String)
  /-- A name in the configuration is not a string. -/
  | namesNotStrings
  deriving Repr, DecidableEq

namespace SettingsFault

def sourceName : TextSource → String
  | .environment => "EnvSettingsSource"
  | .variableFile => "DotEnvSettingsSource"

/-- The fault in words; invalid values are reported one by one. -/
def message : SettingsFault → Text
  | invalid _ => []
  | notJson s source =>
    Text.ofString ("error parsing value for field \"" ++ s.name ++ "\" from source \"" ++ sourceName source ++ "\"")
  | notYaml => []
  | notMapping kind => Text.ofString ("'" ++ kind ++ "' object has no attribute 'update'")
  | namesNotStrings => "keywords must be strings"

end SettingsFault

/-! ### Names -/

/-- Lower case for names: the capital letters of ASCII and the sign for kelvin, which are the code points
whose lower case is a letter of ASCII. -/
def nameLower (t : Text) : Text :=
  t.map fun c => if c.val = 0x212A then CodePoint.ofChar 'k' else c.asciiLower

namespace Setting

def variableName (s : Setting) : Text := "docmirror_" ++ s.name

end Setting

/-- The value of the last entry whose name is the given one without regard to case. -/
def lastNamed? {α : Type} (name : Text) (entries : List (Text × α)) : Option α :=
  (entries.reverse.find? fun e => nameLower e.1 == name).map Prod.snd

/-! ### Readers -/

/-- How the sources of settings are read. -/
structure SettingReaders where
  /-- The document in the text of a configuration. -/
  document? : Text → Option Yaml
  /-- The variables in the text of a variable file, as they are written. -/
  bindings : Text → List (Text × Option Text)
  /-- A value of a variable file with its references replaced, by the variables that are known. -/
  expand : List (Text × Option Text) → Text → Text
  /-- The value that counts for a setting among those that are given. -/
  keyword? : List (Text × Value) → Setting → Option Value

/-- The value under the name of the setting, or else the last one under another spelling of it. -/
def Setting.givenIn? (s : Setting) (given : List (Text × Value)) : Option Value :=
  let name := Text.ofString s.name
  (given.lookup name).or (lastNamed? name given)

def SettingReaders.standard : SettingReaders where
  document? t := Yaml.read? (normalizeLines t)
  bindings := VariableFile.entries
  expand := VariableFile.expand
  keyword? given s := s.givenIn? given

/-! ### Values -/

/-- The value that a text stands for. Lists are written as JSON, and null supplies nothing. -/
def SettingsFault.ofText (s : Setting) (source : TextSource) (t : Text) : Except SettingsFault (Option Value) :=
  if s = .skipPatterns then
    match t.toChars?.bind Json.parse? with
    | some .null => .ok none
    | some v => .ok (some v)
    | none => .error (.notJson s source)
  else .ok (some (.str t))

namespace SettingSources

def fromEnvironment (sources : SettingSources) (s : Setting) : Except SettingsFault (Option Value) :=
  match lastNamed? s.variableName sources.environment with
  | some t => SettingsFault.ofText s .environment t
  | none => .ok none

def fromVariables (readers : SettingReaders) (sources : SettingSources) (s : Setting) :
    Except SettingsFault (Option Value) :=
  let es := VariableFile.read readers.expand sources.environment (readers.bindings sources.variableFile)
  match lastNamed? s.variableName es with
  | some (some t) => SettingsFault.ofText s .variableFile t
  | _ => .ok none

abbrev Supply := Setting → Option Value

def supply (read : Setting → Except SettingsFault (Option Value)) : Except SettingsFault Supply := do
  let pairs ← Setting.all.mapM fun s => do return (s, ← read s)
  return fun s => (pairs.lookup s).join

/-- The value of every setting in the first source that supplies it. -/
def values (readers : SettingReaders) (sources : SettingSources) : Except SettingsFault Supply := do
  let environment ← supply sources.fromEnvironment
  let fromFile ← supply (sources.fromVariables readers)
  return fun s => (readers.keyword? sources.given s).or ((environment s).or (fromFile s))

end SettingSources

/-! ### Settings -/

namespace Settings

/-- A setting from its value, or the standard one, with the faults of the value. -/
def check {α : Type} (s : Setting) (standard : α) (accept : Value → Except ValueFault α) (v : Option Value) :
    α × List SettingFault :=
  match v.map accept with
  | none => (standard, [])
  | some (.ok a) => (a, [])
  | some (.error f) => (standard, [⟨s, none, f⟩])

/-- The patterns from their value, with the faults of its items. -/
def checkPatterns (v : Option Value) : List Text × List SettingFault :=
  match v.map toTexts with
  | none => (standard.skipPatterns, [])
  | some (.ok ts) => (ts, [])
  | some (.error fs) => (standard.skipPatterns, fs.map fun (i, f) => ⟨.skipPatterns, i, f⟩)

def ofValues (value : SettingSources.Supply) : Except SettingsFault Settings :=
  let (sourceSuffix, e1) := check .sourceSuffix standard.sourceSuffix toSuffix (value .sourceSuffix)
  let (outputSuffix, e2) := check .outputSuffix standard.outputSuffix toSuffix (value .outputSuffix)
  let (skipPatterns, e3) := checkPatterns (value .skipPatterns)
  let (includePrivate, e4) := check .includePrivate standard.includePrivate toBool (value .includePrivate)
  let (attributeDocstrings, e5) :=
    check .attributeDocstrings standard.attributeDocstrings toBool (value .attributeDocstrings)
  let (logLevel, e6) := check .logLevel standard.logLevel toLevel (value .logLevel)
  let (jsonLogs, e7) := check .jsonLogs standard.jsonLogs toChoice (value .jsonLogs)
  match e1 ++ e2 ++ e3 ++ e4 ++ e5 ++ e6 ++ e7 with
  | [] =>
    .ok { sourceSuffix, outputSuffix, skipPatterns, includePrivate, attributeDocstrings, logLevel, jsonLogs }
  | faults => .error (.invalid faults)

def load (readers : SettingReaders) (sources : SettingSources) : Except SettingsFault Settings := do
  ofValues (← sources.values readers)

/-! ### Configuration files -/

def documentKind : Yaml → String
  | .null => "NoneType"
  | .bool _ => "bool"
  | .int _ => "int"
  | .float _ _ => "float"
  | .notANumber => "float"
  | .str _ => "str"
  | .date => "datetime.date"
  | .time => "datetime.datetime"
  | .list _ => "list"
  | .map _ => "dict"

def isEmptyDocument : Yaml → Bool
  | .null => true
  | .bool b => !b
  | .int n => n == 0
  | .float _ m => m == .finite 0 0
  | .str t => t.isEmpty
  | .list items => items.isEmpty
  | _ => false

def entryName? : Yaml × Yaml → Option (Text × Value)
  | (.str n, v) => some (n, v.toValue)
  | _ => none

def ofConfiguration (readers : SettingReaders) (t : Text) : Except SettingsFault (List (Text × Value)) := do
  match readers.document? t with
  | none => throw .notYaml
  | some document =>
    if isEmptyDocument document then return []
    else
      match document with
      | .map entries =>
        match entries.mapM entryName? with
        | some named => return named
        | none => throw .namesNotStrings
      | d => throw (.notMapping (documentKind d))

/-- Values that are given, after those of a configuration (`from_yaml`). -/
def withConfiguration (readers : SettingReaders) (configuration : Text) (given : List (Text × Value)) :
    Except SettingsFault (List (Text × Value)) := do
  let values ← ofConfiguration readers configuration
  return given.foldl (fun vs v => Value.set vs v.1 v.2) values

/-- Loads settings with the values of a configuration, which come after those of the sources. -/
def loadWith (readers : SettingReaders) (configuration : Text) (sources : SettingSources) :
    Except SettingsFault Settings := do
  load readers { sources with given := ← withConfiguration readers configuration sources.given }

def toValue (s : Settings) : Value :=
  let entry (n : Setting) (v : Value) : Text × Value := (Text.ofString n.name, v)
  .map
    [entry .sourceSuffix (.str s.sourceSuffix), entry .outputSuffix (.str s.outputSuffix),
      entry .skipPatterns (.list (s.skipPatterns.map .str)), entry .includePrivate (.bool s.includePrivate),
      entry .attributeDocstrings (.bool s.attributeDocstrings), entry .logLevel (.str s.logLevel),
      entry .jsonLogs (match s.jsonLogs with
        | some b => .bool b
        | none => .null)]

end Settings

end ModuleDocs
