import ModuleDocs.Storage.Source
import ModuleDocs.Text.Blank

/-!
# Variable files

A file with a variable per line: a name, an equals sign and a value, which may be quoted. A name without an
equals sign has no value. Lines that do not have this form are ignored from where they depart from it. A reference in a
value is replaced by the value of an earlier variable of the file, or by one of the environment.
-/

namespace ModuleDocs.VariableFile

def isSpace (c : CodePoint) : Bool := c.isBlank && c.val != 0x0A && c.val != 0x0D

def isLineEnd (c : CodePoint) : Bool := c.val == 0x0A || c.val == 0x0D

def dropSpaces (t : Text) : Text := t.dropWhile isSpace

/-- What comes after the word before an exported variable, if it is there. -/
def dropExport (t : Text) : Text :=
  let word := Text.ofString "export"
  let rest := t.drop word.length
  if word.isPrefixOf t && rest.head?.any isSpace then dropSpaces rest else t

/-- The name of a variable and what comes after it. No name stands before a comment. -/
def name? (t : Text) : Option (Option Text × Text) :=
  match t with
  | [] => none
  | c :: cs =>
    if c = CodePoint.ofChar '#' then some (none, t)
    else if c = CodePoint.ofChar '\'' then
      let n := cs.takeWhile (· != CodePoint.ofChar '\'')
      if n.isEmpty || n.length == cs.length then none else some (some n, cs.drop (n.length + 1))
    else
      let n := t.takeWhile fun d => !(d == CodePoint.ofChar '=' || d == CodePoint.ofChar '#' || d.isBlank)
      if n.isEmpty then none else some (some n, t.drop n.length)

/-- The position of the quote that ends a text: the first without a backslash before it, otherwise the last. -/
def closing? (quote : CodePoint) (escaped : Bool) (position : Nat) (last : Option Nat) : Text → Option Nat
  | [] => last
  | c :: cs =>
    if c = quote then
      if escaped then closing? quote false (position + 1) (some position) cs else some position
    else closing? quote (c == CodePoint.ofChar '\\') (position + 1) last cs

def escape? (double : Bool) (c : CodePoint) : Option CodePoint :=
  let always : List (Char × Nat) := [('\\', 92), ('\'', 39)]
  let more : List (Char × Nat) :=
    [('"', 34), ('a', 7), ('b', 8), ('f', 12), ('n', 10), ('r', 13), ('t', 9), ('v', 11)]
  ((if double then always ++ more else always).find? fun e => c == CodePoint.ofChar e.1).map fun e =>
    CodePoint.ofNat e.2

def unescape (double : Bool) : Text → Text
  | [] => []
  | [c] => [c]
  | c :: d :: rest =>
    if c = CodePoint.ofChar '\\' then
      match escape? double d with
      | some e => e :: unescape double rest
      | none => c :: unescape double (d :: rest)
    else c :: unescape double (d :: rest)

/-- A text up to the first comment, which has blanks before it. -/
def beforeComment : Text → Text
  | [] => []
  | c :: cs =>
    if c.isBlank && (cs.dropWhile CodePoint.isBlank).head? == some (CodePoint.ofChar '#') then []
    else c :: beforeComment cs

def value? (t : Text) : Option (Text × Text) :=
  match t with
  | [] => some ([], [])
  | c :: cs =>
    if c = CodePoint.ofChar '\'' ∨ c = CodePoint.ofChar '"' then
      (closing? c false 0 none cs).map fun n =>
        (unescape (c == CodePoint.ofChar '"') (cs.take n), cs.drop (n + 1))
    else
      let line := t.takeWhile fun d => !isLineEnd d
      some ((beforeComment line).stripRight, t.drop line.length)

/-- What comes after the end of a line, if only blanks and a comment stand before it. -/
def lineEnd? (t : Text) : Option Text :=
  let t := dropSpaces t
  let t := if t.head? = some (CodePoint.ofChar '#') then t.dropWhile fun c => !isLineEnd c else t
  match t with
  | [] => some []
  | c :: cs => if isLineEnd c then some cs else none

def dropLine (t : Text) : Text := (t.dropWhile fun c => !isLineEnd c).drop 1

/-- The variable of a line with its value, if the line has that form, and what comes after it. -/
def binding (t : Text) : Option (Text × Option Text) × Text :=
  let t := dropExport t
  match name? t with
  | none => (none, dropLine t)
  | some (name, rest) =>
    let rest := dropSpaces rest
    let valued := rest.head? = some (CodePoint.ofChar '=')
    let start := if valued then dropSpaces (rest.drop 1) else rest
    match if valued then (value? start).map fun (v, rest) => (some v, rest) else some (none, start) with
    | none => (none, dropLine start)
    | some (value, rest) =>
      match lineEnd? rest with
      | some rest => (name.map fun n => (n, value), rest)
      | none => (none, dropLine rest)

/-- The variables of a text, with a bound on their number. -/
def bindings : Nat → Text → List (Text × Option Text)
  | 0, _ => []
  | fuel + 1, t =>
    let t := t.stripLeft
    if t.isEmpty then []
    else
      let (b, rest) := binding t
      b.toList ++ bindings fuel rest

def entries (t : Text) : List (Text × Option Text) :=
  let t := normalizeLines t
  bindings (t.length + 1) t

/-! ### References -/

/-- A reference to a variable, with the value for want of one, and what comes after it. -/
def reference? (t : Text) : Option (Text × Text × Text) :=
  let close := CodePoint.ofChar '\x7d'
  if !(Text.ofString "$\x7b").isPrefixOf t then none
  else
    let name := (t.drop 2).takeWhile fun c => c != close && c != CodePoint.ofChar ':'
    let rest := t.drop (2 + name.length)
    if rest.head? = some close then some (name, [], rest.drop 1)
    else if (Text.ofString ":-").isPrefixOf rest then
      let default := (rest.drop 2).takeWhile (· != close)
      let after := rest.drop (2 + default.length)
      if after.head? = some close then some (name, default, after.drop 1) else none
    else none

def interpolate (known : List (Text × Option Text)) : Nat → Text → Text
  | 0, t => t
  | _, [] => []
  | fuel + 1, c :: cs =>
    match reference? (c :: cs) with
    | some (name, default, rest) =>
      let v :=
        match known.lookup name with
        | some v => v.getD []
        | none => default
      v ++ interpolate known fuel rest
    | none => c :: interpolate known fuel cs

def expand (known : List (Text × Option Text)) (t : Text) : Text := interpolate known (t.length + 1) t

section Reading

variable (expand : List (Text × Option Text) → Text → Text)

/-- Variables with the references in their values replaced. Those known before come after them. -/
def resolve (environment : List (Text × Option Text)) (seen : List (Text × Option Text)) :
    List (Text × Option Text) → List (Text × Option Text)
  | [] => []
  | (name, value) :: rest =>
    let v := value.map (expand (seen ++ environment))
    (name, v) :: resolve environment ((name, v) :: seen) rest

/-- Sets a variable: one that is present keeps its place. -/
def assign (entries : List (Text × Option Text)) (name : Text) (value : Option Text) : List (Text × Option Text) :=
  if entries.any fun e => e.1 == name then
    entries.map fun e => if e.1 == name then (name, value) else e
  else entries ++ [(name, value)]

/-- The variables of a file, given those that are written in it. -/
def read (environment : List (Text × Text)) (written : List (Text × Option Text)) : List (Text × Option Text) :=
  (resolve expand (environment.map fun e => (e.1, some e.2)) [] written).foldl
    (fun entries v => assign entries v.1 v.2) []

end Reading

end ModuleDocs.VariableFile
