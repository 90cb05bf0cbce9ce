import ModuleDocs.Number.Shortest
import ModuleDocs.Text.Quoted

/-!
# Values

Values of untyped data: what a JSON text, a YAML file or the arguments of a log event hold. Mappings keep
their entries in order.
-/

namespace ModuleDocs

/-- An untyped value. -/
inductive Value where
  | null
  | bool (value : Bool)
  | int (value : Int)
  | float (negative : Bool) (magnitude : Binary64)
  | notANumber
  | str (value : Text)
  | list (items : List Value)
  | map (entries : List (Text × Value))
  deriving Repr

namespace Value

instance : Inhabited Value := ⟨.null⟩

def ofString (s : String) : Value := .str (Text.ofString s)

def ofNat (n : Nat) : Value := .int n

def get? (entries : List (Text × Value)) (key : String) : Option Value :=
  entries.reverse.lookup (Text.ofString key)

def field? (key : String) : Value → Option Value
  | map entries => get? entries key
  | _ => none

/-- Sets an entry: a key that is present keeps its place. -/
def set (entries : List (Text × Value)) (key : Text) (value : Value) : List (Text × Value) :=
  if entries.any fun e => e.1 == key then
    entries.map fun e => if e.1 == key then (key, value) else e
  else entries ++ [(key, value)]

/-- Whether a value counts as none: null, false, zero, or nothing in it. -/
def isVoid : Value → Bool
  | null => true
  | bool b => !b
  | int n => if n = 0 then true else false
  | float _ (.finite m _) => if m = 0 then true else false
  | float _ .infinite => false
  | notANumber => false
  | str t => t.isEmpty
  | list items => items.isEmpty
  | map entries => entries.isEmpty

def floatText (negative : Bool) (magnitude : Binary64) : String :=
  let digits := match magnitude with
    | .infinite => "inf"
    | x => x.text true
  (if negative then "-" else "") ++ digits

mutual

def shown : Value → Text
  | null => "None"
  | bool true => "True"
  | bool false => "False"
  | int n => Text.ofString (toString n)
  | float negative magnitude => Text.ofString (floatText negative magnitude)
  | notANumber => "nan"
  | str t => Text.ofString t.quoted
  | list items => "[" ++ shownItems items ++ "]"
  | map entries => "\x7b" ++ shownEntries entries ++ "\x7d"

def shownItems : List Value → Text
  | [] => []
  | [v] => shown v
  | v :: vs => shown v ++ ", " ++ shownItems vs

def shownEntries : List (Text × Value) → Text
  | [] => []
  | [(k, v)] => Text.ofString k.quoted ++ ": " ++ shown v
  | (k, v) :: es => Text.ofString k.quoted ++ ": " ++ shown v ++ ", " ++ shownEntries es

end

end Value

end ModuleDocs
