import ModuleDocs.Path
import ModuleDocs.Value.Basic

/-!
# Command lines

A command line names a command, gives it arguments and sets options. Options have a long name and perhaps a
letter; some take a value, in the same word or in the next one. After a word of two dashes all words are
arguments.
-/

namespace ModuleDocs.Command

/-- An option. -/
inductive Switch where
  | help
  | version
  | config
  | sourceSuffix
  | outputSuffix
  | includePrivate
  | logLevel
  | jsonLogs
  | json
  deriving Repr, DecidableEq

namespace Switch

def long : Switch → Text
  | help => "--help"
  | version => "--version"
  | config => "--config"
  | sourceSuffix => "--source-suffix"
  | outputSuffix => "--output-suffix"
  | includePrivate => "--include-private"
  | logLevel => "--log-level"
  | jsonLogs => "--json-logs"
  | json => "--json"

def letter? : Switch → Option Char
  | version => some 'V'
  | config => some 'c'
  | logLevel => some 'l'
  | _ => none

def takesValue : Switch → Bool
  | config => true
  | sourceSuffix => true
  | outputSuffix => true
  | logLevel => true
  | _ => false

end Switch

def dash : CodePoint := CodePoint.ofChar '-'

/-- Options that are set, with their values, and the words that remain. -/
structure Words where
  switches : List (Switch × Text)
  arguments : List Text
  deriving Repr, DecidableEq

namespace Words

def withSwitches (switches : List (Switch × Text)) (w : Words) : Words :=
  { w with switches := switches ++ w.switches }

def withArgument (argument : Text) (w : Words) : Words := { w with arguments := argument :: w.arguments }

def value? (w : Words) (s : Switch) : Option Text := (w.switches.reverse.lookup s)

def has (w : Words) (s : Switch) : Bool := (w.value? s).isSome

end Words

/-- What a word asks for. -/
inductive Asked where
  /-- Options that are complete. -/
  | switches (set : List (Switch × Text))
  /-- Options that are complete and one whose value is the next word. -/
  | value (set : List (Switch × Text)) (s : Switch)
  deriving Repr, DecidableEq

/-- Reads the letters of options. The rest of the word is the value of the first that takes one. -/
def askedByLetters? (known : List Switch) : Text → Option Asked
  | [] => some (.switches [])
  | c :: cs => do
    let s ← known.find? fun s => s.letter?.map CodePoint.ofChar == some c
    if s.takesValue then
      if cs.isEmpty then return .value [] s else return .switches [(s, cs)]
    else
      match ← askedByLetters? known cs with
      | .switches set => return .switches ((s, []) :: set)
      | .value set t => return .value ((s, []) :: set) t

def asked? (known : List Switch) (word : Text) : Option Asked :=
  let name := word.takeWhile fun c => c != CodePoint.ofChar '='
  let value := (word.drop name.length).tail?
  match known.find? fun s => s.long == name with
  | some s =>
    match s.takesValue, value with
    | true, some v => some (.switches [(s, v)])
    | true, none => some (.value [] s)
    | false, some _ => none
    | false, none => some (.switches [(s, [])])
  | none => if [dash, dash].isPrefixOf word then none else askedByLetters? known word.tail

/-- Reads words: options that are known, and arguments. Unless they are mixed, all words from the first
argument on are arguments. -/
def readWords? (known : List Switch) (mixed : Bool) : List Text → Option Words
  | [] => some ⟨[], []⟩
  | word :: rest =>
    if word = [dash, dash] then some ⟨[], rest⟩
    else if word.head? = some dash ∧ word ≠ [dash] then
      match asked? known word, rest with
      | some (.switches set), rest => (readWords? known mixed rest).map (Words.withSwitches set)
      | some (.value set s), value :: rest =>
        (readWords? known mixed rest).map (Words.withSwitches (set ++ [(s, value)]))
      | some (.value _ _), [] => none
      | none, _ => none
    else if mixed then (readWords? known mixed rest).map (Words.withArgument word)
    else some ⟨[], word :: rest⟩

/-! ### Requests -/

/-- The settings that a command line gives. -/
structure Given where
  config : Option Text
  sourceSuffix : Option Text
  outputSuffix : Option Text
  includePrivate : Bool
  logLevel : Option Text
  jsonLogs : Bool
  deriving Repr, DecidableEq

namespace Given

def ofWords (w : Words) : Given :=
  { config := w.value? .config, sourceSuffix := w.value? .sourceSuffix, outputSuffix := w.value? .outputSuffix
    includePrivate := w.has .includePrivate, logLevel := w.value? .logLevel, jsonLogs := w.has .jsonLogs }

/-- The values of the settings that are given, by name. A flag that is not set gives nothing. -/
def values (g : Given) : List (Text × Value) :=
  let text (name : String) (v : Option Text) : List (Text × Value) :=
    v.toList.map fun t => (Text.ofString name, .str t)
  let flag (name : String) (b : Bool) : List (Text × Value) :=
    if b then [(Text.ofString name, .bool true)] else []
  text "source_suffix" g.sourceSuffix ++ text "output_suffix" g.outputSuffix ++
    flag "include_private" g.includePrivate ++ text "log_level" g.logLevel ++ flag "json_logs" g.jsonLogs

end Given

/-- What a command line asks for. -/
inductive Request where
  /-- To show the version. -/
  | version
  /-- To show the usage. -/
  | help
  /-- To write the pages of a directory into another one. -/
  | generate (input output : Text) (given : Given)
  /-- To show the record of a file, as JSON or in tables. -/
  | inspect (file : Text) (given : Given) (json : Bool)
  deriving Repr, DecidableEq

namespace Request

def generateSwitches : List Switch :=
  [.help, .config, .sourceSuffix, .outputSuffix, .includePrivate, .logLevel, .jsonLogs]

def inspectSwitches : List Switch := [.help, .config, .includePrivate, .json]

def generate? (words : List Text) : Option Request := do
  let w ← readWords? generateSwitches true words
  if w.has .help then return .help
  match w.arguments with
  | [input, output] => return .generate input output (Given.ofWords w)
  | _ => none

def inspect? (words : List Text) : Option Request := do
  let w ← readWords? inspectSwitches true words
  if w.has .help then return .help
  match w.arguments with
  | [file] => return .inspect file (Given.ofWords w) (w.has .json)
  | _ => none

def ofWords? (words : List Text) : Option Request := do
  let w ← readWords? [.help, .version] false words
  match w.switches, w.arguments with
  | (.version, _) :: _, _ => return .version
  | _ :: _, _ => return .help
  | [], command :: rest =>
    if command = Text.ofString "generate" then generate? rest
    else if command = Text.ofString "inspect" then inspect? rest
    else none
  | [], [] => none

end Request

end ModuleDocs.Command
