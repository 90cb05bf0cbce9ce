import ModuleDocs.Alias.Expansion
import ModuleDocs.Source.Stmt

/-!
# Signatures

The texts of function and class heads. Annotations and bases are written by a function given as an
argument (as written, or with aliases expanded); defaults are always shown as written.
-/

namespace ModuleDocs.Signature

open Source

abbrev Writer := Expr → Except AnnotationFault String

def asWritten : Writer := fun e => e.text.mapError AnnotationFault.unprintable

/-- One parameter, after a mark that stands before its name (`param`). -/
def param (write : Writer) (mark : String) (p : Param) : Except AnnotationFault String := do
  match p.type, p.default with
  | some a, some d => return mark ++ p.name ++ ": " ++ (← write a) ++ " = " ++ (← asWritten d)
  | some a, none => return mark ++ p.name ++ ": " ++ (← write a)
  | none, some d => return mark ++ p.name ++ "=" ++ (← asWritten d)
  | none, none => return mark ++ p.name

/-- The default at an index among the positional parameters: defaults belong to the last of them. -/
def defaultAt (defaults : List Expr) (count index : Nat) : Option Expr :=
  let first := count - defaults.length
  if first ≤ index then defaults[index - first]? else none

/-- The positional parameters, with a slash after the last one that is positional-only. -/
def positionalParts (write : Writer) (a : Arguments) : Except AnnotationFault (List String) := do
  let positional := a.positionalOnly ++ a.positional
  let texts ← positional.zipIdx.mapM fun (arg, index) => do
    let text ← param write "" (arg.withDefault (defaultAt a.defaults positional.length index))
    return if !a.positionalOnly.isEmpty && index == a.positionalOnly.length - 1 then [text, "/"] else [text]
  return texts.flatten

/-- What opens the keyword-only parameters: the parameter that takes the remaining positional arguments, or a star. -/
def middleParts (write : Writer) (a : Arguments) : Except AnnotationFault (List String) :=
  match a.rest with
  | some arg => do
    let text ← param write "*" (arg.withDefault none)
    return [text]
  | none => return if a.keywordOnly.isEmpty then [] else ["*"]

def parts (write : Writer) (a : Arguments) : Except AnnotationFault (List String) := do
  let positional ← positionalParts write a
  let middle ← middleParts write a
  let keywordOnly ← (a.keywordOnly.zip a.keywordDefaults).mapM fun (arg, default) =>
    param write "" (arg.withDefault default)
  let extra ← a.extra.toList.mapM fun arg => param write "**" (arg.withDefault none)
  return positional ++ middle ++ keywordOnly ++ extra

/-- The signature of a function (`_signature`). -/
def ofFunction (write : Writer) (f : FunctionHead) : Except AnnotationFault String := do
  let ps ← parts write f.params.arguments
  let result ←
    match f.returns with
    | some e => do
      let t ← write e
      pure (" -> " ++ t)
    | none => pure ""
  return (if f.isAsync then "async " else "") ++ "(" ++ ", ".intercalate ps ++ ")" ++ result

/-- The text of a class (`_class_text`). -/
def ofClass (write : Writer) (c : ClassHead) : Except AnnotationFault String := do
  let bases ← c.bases.mapM write
  let keywords ← c.keywords.mapM fun k => do
    let t ← write k.value
    return match k.name with
      | some n => n ++ "=" ++ t
      | none => "**" ++ t
  let all := bases ++ keywords
  return "class " ++ c.name ++ if all.isEmpty then "" else "(" ++ ", ".intercalate all ++ ")"

end ModuleDocs.Signature
