import ModuleDocs.Page
import ModuleDocs.Text.Uppercase

/-!
# Page templates

A template gives pages another form: text with expressions to be printed, loops over fields and choices.
Expressions name the module, its parts and the variables of loops. Printed texts are escaped.
-/

namespace ModuleDocs

/-- Functions that an expression can apply to its value. -/
inductive TemplateFilter where
  /-- The number of elements. -/
  | length
  /-- The text in upper case. -/
  | upper
  deriving Repr, DecidableEq

/-- An expression of a template. -/
inductive TemplateExpr where
  | name (id : Text)
  | literal (t : Text)
  | number (n : Nat)
  | member (e : TemplateExpr) (field : Text)
  | apply (e : TemplateExpr) (f : TemplateFilter)
  deriving Repr, DecidableEq

/-- A part of a template. -/
inductive TemplatePart where
  | text (t : Text)
  | print (e : TemplateExpr)
  /-- The body for every element, or the alternative if there is none. -/
  | loop (variable_ : Text) (items : TemplateExpr) (body otherwise : List TemplatePart)
  | choice (condition : TemplateExpr) (body otherwise : List TemplatePart)
  deriving Repr

abbrev Template := List TemplatePart

/-- What an expression of a template stands for. -/
inductive TemplateValue where
  | text (t : Text)
  | number (n : Nat)
  | module (m : Module)
  | record (r : Record)
  | field (f : Field)
  | fields (fs : List Field)
  /-- Nothing, with the report that is due when it is used. -/
  | undefined (report : Text)
  deriving Repr, DecidableEq

namespace TemplateValue

def kind : TemplateValue → String
  | text _ => "str object"
  | number _ => "int object"
  | module _ => "docmirror.model.Module object"
  | record _ => "docmirror.model.Record object"
  | field _ => "docmirror.model.Field object"
  | fields _ => "tuple object"
  | undefined _ => "undefined"

def member (v : TemplateValue) (name : Text) : TemplateValue :=
  let missing : TemplateValue :=
    .undefined ("'" ++ v.kind ++ "' has no attribute " ++ Text.ofString name.quoted)
  let is (s : String) : Bool := name == Text.ofString s
  match v with
  | undefined report => .undefined report
  | module m => if is "name" then .text m.name else if is "record" then .record m.record else missing
  | record r => if is "types" then .fields r.types else if is "values" then .fields r.values else missing
  | field f =>
    if is "name" then .text f.name
    else if is "type" then .text f.type
    else if is "comment" then .text f.comment
    else missing
  | _ => missing

def shownField (f : Field) : Text :=
  "Field(name=" ++ Text.ofString f.name.quoted ++ ", type=" ++ Text.ofString f.type.quoted ++ ", comment=" ++
    Text.ofString f.comment.quoted ++ ")"

def shownFields : List Field → Text
  | [f] => "(" ++ shownField f ++ ",)"
  | fs => "(" ++ Text.join ", " (fs.map shownField) ++ ")"

def shownRecord (r : Record) : Text :=
  "Record(types=" ++ shownFields r.types ++ ", values=" ++ shownFields r.values ++ ")"

def printed : TemplateValue → Except Text Text
  | text t => .ok t
  | number n => .ok (Text.ofNat n)
  | module m =>
    .ok ("Module(name=" ++ Text.ofString m.name.quoted ++ ", record=" ++ shownRecord m.record ++ ")")
  | record r => .ok (shownRecord r)
  | field f => .ok (shownField f)
  | fields fs => .ok (shownFields fs)
  | undefined report => .error report

def truth : TemplateValue → Except Text Bool
  | text t => .ok !t.isEmpty
  | number n => .ok (n != 0)
  | fields fs => .ok !fs.isEmpty
  | undefined report => .error report
  | _ => .ok true

def elements : TemplateValue → Except Text (List TemplateValue)
  | text t => .ok (t.map fun c => .text [c])
  | fields fs => .ok (fs.map .field)
  | undefined report => .error report
  | v => .error ("'" ++ v.kind ++ "' is not iterable")

def apply (f : TemplateFilter) (v : TemplateValue) : Except Text TemplateValue :=
  match f with
  | .length => return .number (← v.elements).length
  | .upper => return .text (← v.printed).toUpper

end TemplateValue

namespace TemplateExpr

/-- The value of an expression, given those of the variables. -/
def value (bindings : List (Text × TemplateValue)) : TemplateExpr → Except Text TemplateValue
  | name id =>
    .ok ((bindings.lookup id).getD (.undefined (Text.ofString id.quoted ++ " is undefined")))
  | literal t => .ok (.text t)
  | number n => .ok (.number n)
  | member e field => do
    match ← e.value bindings with
    | .undefined report => throw report
    | v => return v.member field
  | apply e f => do
    let v ← e.value bindings
    v.apply f

end TemplateExpr

namespace Template

mutual

def renderPart (bindings : List (Text × TemplateValue)) : TemplatePart → Except Text Text
  | .text t => .ok t
  | .print e => do
    let v ← e.value bindings
    return Page.escape (← v.printed)
  | .loop id items body otherwise => do
    let vs ← (← items.value bindings).elements
    if vs.isEmpty then renderParts bindings otherwise
    else
      let texts ← vs.mapM fun v => renderParts ((id, v) :: bindings) body
      return texts.flatten
  | .choice condition body otherwise => do
    if ← (← condition.value bindings).truth then renderParts bindings body
    else renderParts bindings otherwise

def renderParts (bindings : List (Text × TemplateValue)) : List TemplatePart → Except Text Text
  | [] => .ok []
  | p :: ps => do
    let t ← renderPart bindings p
    return t ++ (← renderParts bindings ps)

end

def render (t : Template) (m : Module) : Except Text Text :=
  renderParts [(Text.ofString "module", .module m)] t

end Template

end ModuleDocs
