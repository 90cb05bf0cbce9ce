import ModuleDocs.Template.Basic
import ModuleDocs.Template.Token

/-!
# Reading templates

From tokens to the parts of a template. A template that does not follow the grammar is refused with a
report.
-/

namespace ModuleDocs

namespace TemplateReader

/-- What is being read: the tokens that are left, and the functions that were named but do not exist. -/
structure Progress where
  tokens : List TemplateToken
  unknown : List Text

/-- Reading, which may be refused with a report. -/
abbrev Reader := StateT Progress (Except Text)

def refuse {α : Type} (report : Text) : Reader α := throw report

def current : Reader (Option TemplateToken) := do
  match (← get).tokens.head? with
  | some (.broken report) => refuse report
  | t => return t

def advance : Reader Unit := do
  modify fun p => { p with tokens := p.tokens.drop 1 }
  let _ ← current

/-- A token, or the end of the template, in reports. -/
def described : Option TemplateToken → Text
  | some t => t.describe
  | none => "end of template"

def inQuotes (t : Text) : Text := Text.ofString t.quoted

def expect (wanted : TemplateToken) : Reader Unit := do
  let t ← current
  if t = some wanted then advance
  else if t = none then refuse ("unexpected end of template, expected " ++ inQuotes wanted.describe ++ ".")
  else refuse ("expected token " ++ inQuotes wanted.describe ++ ", got " ++ inQuotes (described t))

def op (s : String) : TemplateToken := .operator (Text.ofString s)

def word (s : String) : TemplateToken := .name (Text.ofString s)

/-! ### Expressions -/

/-- Tokens that no expression starts with, where one is wanted. -/
def endsExpression (t : Option TemplateToken) : Bool :=
  t == some .printEnd || t == some .blockEnd || t == some (op ")")

def filter? (name : Text) : Option TemplateFilter :=
  if name = Text.ofString "length" ∨ name = Text.ofString "count" then some .length
  else if name = Text.ofString "upper" then some .upper
  else none

def suffixes : Nat → TemplateExpr → Reader TemplateExpr
  | 0, e => return e
  | fuel + 1, e => do
    let t ← current
    if t = some (op ".") then
      advance
      match ← current with
      | some (.name n) =>
        advance
        suffixes fuel (.member e n)
      | _ => refuse "expected name or number"
    else if t = some (op "|") then
      advance
      match ← current with
      | some (.name n) =>
        advance
        match filter? n with
        | some f => suffixes fuel (.apply e f)
        | none =>
          modify fun p => { p with unknown := p.unknown ++ [n] }
          suffixes fuel e
      | t =>
        if t = none then refuse "unexpected end of template, expected 'name'."
        else refuse ("expected token 'name', got " ++ inQuotes (described t))
    else return e

def expression : Nat → Reader TemplateExpr
  | 0 => refuse "unexpected 'end of template'"
  | fuel + 1 => do
    match ← current with
    | some (.name n) =>
      advance
      suffixes fuel (.name n)
    | some (.integer n) =>
      advance
      suffixes fuel (.number n)
    | some (.string t) =>
      advance
      suffixes fuel (.literal t)
    | t =>
      if t = some (op "(") then
        advance
        let e ← expression fuel
        expect (op ")")
        suffixes fuel e
      else if endsExpression t then
        refuse ("Expected an expression, got " ++ inQuotes (described t))
      else refuse ("unexpected " ++ inQuotes (described t))

/-! ### Statements -/

/-- The words that can end a body, and the statement that they belong to. -/
structure Frame where
  ends : List String
  tag : String

def alternatives (ends : List String) : Text :=
  Text.join " or " (ends.map fun e => inQuotes (Text.ofString e))

/-- The report about a word that is no statement, or about the end of the template. -/
def unknownTag (found : Option Text) (frames : List Frame) : Text :=
  let opening : Text :=
    match found with
    | some n => "Encountered unknown tag " ++ inQuotes n ++ "."
    | none => "Unexpected end of template."
  match frames with
  | [] => opening
  | f :: _ =>
    let expected := frames.flatMap fun f => f.ends.map Text.ofString
    let hint : Text :=
      if found.any expected.contains then
        " You probably made a nesting mistake. Jinja is expecting this tag, but currently looking for " ++
          alternatives f.ends ++ "."
      else " Jinja was looking for the following tags: " ++ alternatives f.ends ++ "."
    opening ++ hint ++ " The innermost block that needs to be closed is " ++ inQuotes f.tag ++ "."

mutual

/-- The parts of a body up to one of the words that end it, which is left to be read. The outermost body
ends with the template. -/
def body (frames : List Frame) : Nat → Reader (List TemplatePart)
  | 0 => return []
  | fuel + 1 => do
    match ← current with
    | none =>
      if frames.isEmpty then return [] else refuse (unknownTag none frames)
    | some (.data t) =>
      advance
      return .text t :: (← body frames fuel)
    | some .printBegin =>
      advance
      let e ← expression fuel
      expect .printEnd
      return .print e :: (← body frames fuel)
    | some .blockBegin =>
      advance
      match ← current with
      | some (.name n) =>
        if (frames.head?.map fun f => f.ends.map Text.ofString).any (·.contains n) then return []
        else
          let p ← statement frames fuel n
          expect .blockEnd
          return p :: (← body frames fuel)
      | _ => refuse "tag name expected"
    | some t => refuse ("unexpected " ++ inQuotes t.describe)

def statement (frames : List Frame) : Nat → Text → Reader TemplatePart
  | 0, _ => refuse "unexpected 'end of template'"
  | fuel + 1, tag => do
    if tag = Text.ofString "for" then
      advance
      let id ←
        match ← current with
        | some (.name n) => do
          advance
          pure n
        | t =>
          if endsExpression t then refuse ("Expected an expression, got " ++ inQuotes (described t))
          else refuse ("unexpected " ++ inQuotes (described t))
      expect (word "in")
      let items ← expression fuel
      expect .blockEnd
      let each ← body (⟨["endfor", "else"], "for"⟩ :: frames) fuel
      let ending ← current
      advance
      if ending = some (word "else") then
        expect .blockEnd
        let otherwise ← body (⟨["endfor"], "for"⟩ :: frames) fuel
        advance
        return .loop id items each otherwise
      else return .loop id items each []
    else if tag = Text.ofString "if" then
      advance
      choice frames fuel
    else refuse (unknownTag (some tag) frames)

def choice (frames : List Frame) : Nat → Reader TemplatePart
  | 0 => refuse "unexpected 'end of template'"
  | fuel + 1 => do
    let condition ← expression fuel
    expect .blockEnd
    let yes ← body (⟨["elif", "else", "endif"], "if"⟩ :: frames) fuel
    let ending ← current
    advance
    if ending = some (word "elif") then return .choice condition yes [← choice frames fuel]
    else if ending = some (word "else") then
      expect .blockEnd
      let no ← body (⟨["endif"], "if"⟩ :: frames) fuel
      advance
      return .choice condition yes no
    else return .choice condition yes []

end

end TemplateReader

namespace Template

def ofText (t : Text) : Except Text Template := do
  let tokens := TemplateToken.ofText t
  let (parts, rest) ← (TemplateReader.body [] (2 * tokens.length + 2)).run ⟨tokens, []⟩
  match rest.unknown with
  | [] => return parts
  | n :: _ => throw ("No filter named " ++ Text.ofString n.quoted ++ ".")

end Template

end ModuleDocs
