import ModuleDocs.Text.Uppercase
import ModuleDocs.Value.Json

/-!
# The log

Events with named fields. Fields can be bound, so that every event carries them; bound fields belong to
contexts that are entered and left. An event below the threshold is not emitted, and none is before the log
is configured.
-/

namespace ModuleDocs

/-- The importance of an event. -/
inductive Level where
  | debug
  | info
  | warning
  | error
  | critical
  deriving Repr, DecidableEq

namespace Level

/-- All levels, the least important first. -/
def all : List Level := [debug, info, warning, error, critical]

def name : Level → String
  | debug => "debug"
  | info => "info"
  | warning => "warning"
  | error => "error"
  | critical => "critical"

def ofName? (n : Text) : Option Level := all.find? fun l => Text.ofString l.name == n

def rank : Level → Nat
  | debug => 10
  | info => 20
  | warning => 30
  | error => 40
  | critical => 50

/-- The names of thresholds, in upper case. -/
def thresholds : List (String × Nat) :=
  [("DEBUG", 10), ("INFO", 20), ("WARNING", 30), ("WARN", 30), ("ERROR", 40), ("CRITICAL", 50), ("FATAL", 50),
    ("NOTSET", 0)]

/-- The threshold with a name, in any case. -/
def threshold? (n : Text) : Option Nat :=
  (thresholds.find? fun t => Text.ofString t.1 == n.toUpper).map Prod.snd

end Level

/-- An event with the fields it carries. -/
structure LogEvent where
  level : Level
  name : Text
  fields : List (Text × Value)
  deriving Repr

namespace LogEvent

def levelWidth : Nat := 9

def nameWidth : Nat := 30

def pad (width : Nat) (t : Text) : Text := t ++ List.replicate (width - t.length) (CodePoint.ofChar ' ')

/-- Code points that have a string value quoted in a line. -/
def needsQuotes (c : CodePoint) : Bool :=
  [' ', '\t', '=', '\r', '\n', '"', '\''].any fun d => c == CodePoint.ofChar d

def lineValue : Value → Text
  | .str t => if t.any needsQuotes then Text.ofString t.quoted else t
  | v => v.shown

def nameKey : Text := "event"

def levelKey : Text := "level"

/-- The key of the time, which is not modelled. -/
def timeKey : Text := "timestamp"

/-- The key of the request for a trace of calls, and the key that the trace comes under. The trace is not modelled. -/
def traceRequestKey : Text := "stack_info"

def traceKey : Text := "stack"

def traced (e : LogEvent) : Bool := (e.fields.lookup traceRequestKey).any fun v => !v.isVoid

/-- The keys under which nothing goes out but what the log puts there itself: the time and a trace. -/
def withheld (e : LogEvent) : List Text := timeKey :: traceRequestKey :: if e.traced then [traceKey] else []

/-- What goes out under each key, apart from the time and a trace: the fields, and name and level of the event in
place of fields with these keys. -/
def entries (e : LogEvent) : List (Text × Value) :=
  Value.set (Value.set (e.fields.filter fun f => !e.withheld.contains f.1) nameKey (.str e.name)) levelKey
    (.ofString e.level.name)

def toValue (e : LogEvent) : Value := .map e.entries

/-- The event as a line: level, name, and the fields in the order of their names. -/
def line (e : LogEvent) : Text :=
  let fields := (e.entries.filter fun f => !(f.1 == nameKey || f.1 == levelKey)).mergeSort fun a b => !Text.lt b.1 a.1
  let shown := fields.map fun f => f.1 ++ "=" ++ lineValue f.2
  (Text.join " " (("[" ++ pad levelWidth e.level.name ++ "]") :: pad nameWidth e.name :: shown)).reverse.dropWhile
    (· == CodePoint.ofChar ' ') |>.reverse

end LogEvent

/-- How events are emitted. -/
structure LogFormat where
  /-- Events below this rank are not emitted. -/
  threshold : Nat
  /-- Events are written as JSON, not as lines for the eye. -/
  json : Bool
  deriving Repr, DecidableEq

/-- The state of the log. -/
structure Log where
  format : Option LogFormat
  /-- The fields that every event carries. -/
  bound : List (Text × Value)
  /-- The names that each context bound, the innermost first. -/
  contexts : List (List Text)
  /-- The events so far. -/
  emitted : List LogEvent
  deriving Repr

namespace Log

def unconfigured : Log := ⟨none, [], [], []⟩

/-- Sets threshold and format (`configure_logging`). Without a choice of format events are written as JSON. The
error is the name of a threshold that does not exist. -/
def configure (log : Log) (level : Text) (json : Option Bool) : Except Text Log :=
  match Level.threshold? level with
  | some t => .ok { log with format := some ⟨t, json.getD true⟩ }
  | none => .error level.toUpper

def unknownThreshold (name : Text) : Text := "module 'logging' has no attribute '" ++ name ++ "'"

/-- Configures a log for warnings only, as lines, unless it is configured (`ensure_configured`). -/
def ensureConfigured (log : Log) : Log :=
  match log.format with
  | some _ => log
  | none => { log with format := some ⟨Level.warning.rank, false⟩ }

/-- Enters a context that binds fields (`LogContext`). -/
def enter (log : Log) (fields : List (Text × Value)) : Log :=
  { log with
    bound := fields.foldl (fun b f => Value.set b f.1 f.2) log.bound
    contexts := fields.map Prod.fst :: log.contexts }

/-- Leaves the innermost context: the names it bound are bound no more. -/
def leave? (log : Log) : Option Log :=
  match log.contexts with
  | [] => none
  | names :: outer =>
    some { log with bound := log.bound.filter fun f => !names.contains f.1, contexts := outer }

/-- Leaves the innermost context, if there is one. -/
def leave (log : Log) : Log := log.leave?.getD log

def accepts (log : Log) (level : Level) : Bool :=
  match log.format with
  | some f => f.threshold ≤ level.rank
  | none => false

/-- Emits an event. Its own fields take the place of bound ones. -/
def emit (log : Log) (level : Level) (name : Text) (fields : List (Text × Value)) : Log :=
  if log.accepts level then
    { log with
      emitted := log.emitted ++ [⟨level, name, fields.foldl (fun b f => Value.set b f.1 f.2) log.bound⟩] }
  else log

end Log

end ModuleDocs
