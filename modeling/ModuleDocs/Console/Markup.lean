import ModuleDocs.Console.Style

/-!
# Markup

Texts for the console can hold tags in brackets: `[bold]` starts a style, `[/bold]` ends it and `[/]` ends
the style that was started last. A backslash before a tag has it shown as it is. Brackets that are not tags
are text. A tag that ends a style which was not started is a fault. A name between colons can stand for other
text, and a tag can call a handler with parameters; a `Lexicon` says what these names and parameters mean.
-/

namespace ModuleDocs.Console

/-- What is wrong with a tag. -/
inductive MarkupFault where
  /-- A tag with a name that ends what was not started, with its text and position. -/
  | unopened (tag : Text) (position : Nat)
  /-- A tag without a name that ends what was not started, with its position. -/
  | nothingOpen (position : Nat)
  /-- A handler with wrong parameters, in words. -/
  | parameters (report : Text)
  /-- A colour without one of its numbers. -/
  | missingNumber
  deriving Repr, DecidableEq

namespace MarkupFault

def message : MarkupFault → Text
  | unopened tag position =>
    "closing tag '" ++ tag ++ "' at position " ++ Text.ofNat position ++ " doesn't match any open tag"
  | nothingOpen position => "closing tag '[/]' at position " ++ Text.ofNat position ++ " has nothing to close"
  | parameters report => report
  | missingNumber => "invalid literal for int() with base 10: ''"

def className : MarkupFault → String
  | missingNumber => "ValueError"
  | _ => "MarkupError"

end MarkupFault

/-- What is not decided by the markup itself. -/
structure Lexicon where
  /-- The text that a name between colons stands for. -/
  emoji? : Text → Option Text
  /-- What is wrong with the parameters of a handler, if anything. -/
  parameterFault? : Text → Option Text

namespace Markup

/-! ### Names between colons -/

def colon : CodePoint := CodePoint.ofChar ':'

/-- The name in a code, and what selects a variant of its text. -/
def variant (code : Text) : Text × Text :=
  let cutOff (suffix : String) (selector : Nat) : Option (Text × Text) :=
    if (Text.ofString suffix).isSuffixOf code then
      some (code.take (code.length - suffix.length), [CodePoint.ofNat selector])
    else none
  ((cutOff "-emoji" 0xFE0F).or (cutOff "-text" 0xFE0E)).getD (code, [])

def meaning (lexicon : Lexicon) (code : Text) : Text :=
  let (name, selector) := variant code
  match lexicon.emoji? name with
  | some t => t ++ selector
  | none => colon :: code ++ [colon]

/-- A text with its codes replaced. The number counts code points of a code that has been seen already. -/
def decoded (lexicon : Lexicon) (skip : Nat) : Text → Text
  | [] => []
  | c :: cs =>
    match skip with
    | skip + 1 => decoded lexicon skip cs
    | 0 =>
      let code := cs.takeWhile fun d => d != colon && !d.isBlank
      if c = colon ∧ cs[code.length]? = some colon then
        meaning lexicon code ++ decoded lexicon (code.length + 1) cs
      else c :: decoded lexicon 0 cs

/-! ### Tags -/

/-- The parts of a marked-up text. -/
inductive Part where
  | plain (t : Text)
  /-- A tag: what stands between its brackets, and its position. -/
  | tag (content : Text) (position : Nat)
  deriving Repr, DecidableEq

def opening : CodePoint := CodePoint.ofChar '['

def closing : CodePoint := CodePoint.ofChar ']'

def backslash : CodePoint := CodePoint.ofChar '\\'

def startsTag (c : CodePoint) : Bool :=
  (0x61 ≤ c.val && c.val ≤ 0x7A) || c == CodePoint.ofChar '#' || c == CodePoint.ofChar '/' ||
    c == CodePoint.ofChar '@'

def tagContent? (t : Text) : Option Text :=
  match t with
  | bracket :: c :: _ =>
    let content := t.tail.takeWhile fun c => c != opening && c != closing
    if bracket = opening ∧ startsTag c ∧ t[content.length + 1]? = some closing then some content else none
  | _ => none

/-- The parts of a text that starts at a position, after a run of plain text. The number counts code points of a tag
that has been seen already. -/
def parts (position skip : Nat) (run : Text) : Text → List Part
  | [] => [.plain run]
  | c :: cs =>
    match skip with
    | skip + 1 => parts (position + 1) skip run cs
    | 0 =>
      let slashes := ((c :: cs).takeWhile fun c => c == backslash).length
      match tagContent? ((c :: cs).drop slashes) with
      | some content =>
        let tag :=
          if slashes % 2 = 0 then .tag content (position + slashes)
          else .plain (opening :: content ++ [closing])
        .plain run :: .plain (List.replicate (slashes / 2) backslash) :: tag ::
          parts (position + 1) (slashes + content.length + 1) [] cs
      | none =>
        if c = backslash ∧ cs.head? = some opening then parts (position + 1) 0 run cs
        else parts (position + 1) 0 (run ++ [c]) cs

/-- Controls that a console leaves out: bell, backspace, and those that would move to another line. -/
def isDropped (c : CodePoint) : Bool := c.val == 7 || c.val == 8 || (11 ≤ c.val && c.val ≤ 13)

def tagName (content : Text) : Text := content.takeWhile fun c => c != CodePoint.ofChar '='

def tagParameters (content : Text) : Text := content.drop ((tagName content).length + 1)

/-- A tag that is open: the normal form of its style, and its parameters. -/
abbrev OpenTag := Text × Text

def endFault? (lexicon : Lexicon) (tag : OpenTag) : Option MarkupFault :=
  if tag.1.head? = some (CodePoint.ofChar '@') ∧ tag.2 ≠ [] then
    (lexicon.parameterFault? tag.2).map .parameters
  else none

/-- Ends a tag, the last one if there is no name: the tags that stay open. -/
def close (lexicon : Lexicon) (tags : List OpenTag) (content : Text) (position : Nat) :
    Except MarkupFault (List OpenTag) := do
  let ended := Text.strip (tagName content).tail
  let (tag?, rest) ←
    if ended.isEmpty then pure (tags.head?, tags.tail)
    else
      match Style.normal? ended with
      | none => throw .missingNumber
      | some style => pure (tags.find? (·.1 == style), tags.eraseP (·.1 == style))
  match tag? with
  | none =>
    throw (if ended.isEmpty then .nothingOpen position else .unopened (opening :: content ++ [closing]) position)
  | some tag =>
    match endFault? lexicon tag with
    | some f => throw f
    | none => return rest

/-- The text that is shown, with the tags that are open, the innermost first. -/
def shown (lexicon : Lexicon) (tags : List OpenTag) : List Part → Except MarkupFault Text
  | [] => .ok []
  | .plain t :: rest => do
    let more ← shown lexicon tags rest
    return (decoded lexicon 0 t).filter (fun c => !isDropped c) ++ more
  | .tag content position :: rest =>
    if content.head? = some (CodePoint.ofChar '/') then do
      shown lexicon (← close lexicon tags content position) rest
    else
      match Style.normal? (tagName content) with
      | none => .error .missingNumber
      | some style => shown lexicon ((style, tagParameters content) :: tags) rest

def plainText (lexicon : Lexicon) (t : Text) : Except MarkupFault Text := shown lexicon [] (parts 0 0 [] t)

end Markup

end ModuleDocs.Console
