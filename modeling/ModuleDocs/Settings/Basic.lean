import ModuleDocs.Text.Uppercase
import ModuleDocs.Value.Json

/-!
# Settings

The settings of a run, and the rules that make values of them: suffixes start with a dot, the log level is
one of five, and truth values may be spelled in words or numbers.
-/

namespace ModuleDocs

/-- The settings of a run. -/
structure Settings where
  sourceSuffix : Text
  outputSuffix : Text
  skipPatterns : List Text
  includePrivate : Bool
  attributeDocstrings : Bool
  logLevel : Text
  /-- Whether the log is written as JSON; none leaves the choice to the log. -/
  jsonLogs : Option Bool
  deriving Repr, DecidableEq

/-- The names of the settings. -/
inductive Setting where
  | sourceSuffix
  | outputSuffix
  | skipPatterns
  | includePrivate
  | attributeDocstrings
  | logLevel
  | jsonLogs
  deriving Repr, DecidableEq

namespace Setting

/-- All settings, in the order of reports. -/
def all : List Setting :=
  [sourceSuffix, outputSuffix, skipPatterns, includePrivate, attributeDocstrings, logLevel, jsonLogs]

def name : Setting → String
  | sourceSuffix => "source_suffix"
  | outputSuffix => "output_suffix"
  | skipPatterns => "skip_patterns"
  | includePrivate => "include_private"
  | attributeDocstrings => "attribute_docstrings"
  | logLevel => "log_level"
  | jsonLogs => "json_logs"

end Setting

/-- Why a value is not accepted. -/
inductive ValueFault where
  | notString
  | notList
  | notBoolean
  /-- A value of the right kind that spells no truth value. -/
  | unclearBoolean
  | emptySuffix
  | unknownLevel (level : Text)
  deriving Repr, DecidableEq

namespace ValueFault

def kind : ValueFault → String
  | notString => "string_type"
  | notList => "list_type"
  | notBoolean => "bool_type"
  | unclearBoolean => "bool_parsing"
  | emptySuffix => "value_error"
  | unknownLevel _ => "value_error"

def message : ValueFault → Text
  | notString => "Input should be a valid string"
  | notList => "Input should be a valid list"
  | notBoolean => "Input should be a valid boolean"
  | unclearBoolean => "Input should be a valid boolean, unable to interpret input"
  | emptySuffix => "Value error, suffix must not be empty"
  | unknownLevel l => "Value error, unknown log level: " ++ l

end ValueFault

/-- A value that is not accepted: for which setting, for which item of a list, and why. -/
structure SettingFault where
  setting : Setting
  item : Option Nat
  fault : ValueFault
  deriving Repr, DecidableEq

namespace Settings

def standard : Settings :=
  { sourceSuffix := ".py"
    outputSuffix := ".html"
    skipPatterns := ["__pycache__", ".git", ".venv", "venv", "node_modules"].map Text.ofString
    includePrivate := false
    attributeDocstrings := true
    logLevel := "INFO"
    jsonLogs := none }

def levels : List Text := ["DEBUG", "INFO", "WARNING", "ERROR", "CRITICAL"].map Text.ofString

def toText : Value → Except ValueFault Text
  | .str t => .ok t
  | _ => .error .notString

/-- A suffix, with a dot before it if it has none (`_dotted_suffix`). -/
def toSuffix (v : Value) : Except ValueFault Text := do
  let t ← toText v
  match t with
  | [] => throw .emptySuffix
  | c :: _ => if c = CodePoint.ofChar '.' then return t else return CodePoint.ofChar '.' :: t

/-- A log level, in upper case (`_known_level`). -/
def toLevel (v : Value) : Except ValueFault Text := do
  let t ← toText v
  let level := t.toUpper
  if levels.contains level then return level else throw (.unknownLevel level)

def wordTruth? (t : Text) : Option Bool :=
  let t := t.map CodePoint.asciiLower
  if ["1", "on", "t", "true", "y", "yes"].any fun w => t == Text.ofString w then some true
  else if ["0", "off", "f", "false", "n", "no"].any fun w => t == Text.ofString w then some false
  else none

def numberTruth? (n : Int) : Option Bool := if n = 0 then some false else if n = 1 then some true else none

/-- Whether a float is a whole number, and if so which one. -/
def wholeNumber? (negative : Bool) (magnitude : Binary64) : Option Int :=
  (magnitude.whole?).map fun n => if negative then -(n : Int) else n

def toBool : Value → Except ValueFault Bool
  | .bool b => .ok b
  | .str t => (wordTruth? t).elim (.error .unclearBoolean) .ok
  | .int n => (numberTruth? n).elim (.error .unclearBoolean) .ok
  | .float negative magnitude =>
    match wholeNumber? negative magnitude with
    | some n => (numberTruth? n).elim (.error .unclearBoolean) .ok
    | none => .error .notBoolean
  | _ => .error .notBoolean

def toChoice : Value → Except ValueFault (Option Bool)
  | .null => .ok none
  | v => (toBool v).map some

/-- A list of strings. The faults are those of the items, or that of the list. -/
def toTexts : Value → Except (List (Option Nat × ValueFault)) (List Text)
  | .list items =>
    let faults := items.zipIdx.filterMap fun (v, i) =>
      match toText v with
      | .ok _ => none
      | .error f => some (some i, f)
    if faults.isEmpty then .ok (items.filterMap fun v => (toText v).toOption) else .error faults
  | _ => .error [(none, .notList)]

end Settings

end ModuleDocs
