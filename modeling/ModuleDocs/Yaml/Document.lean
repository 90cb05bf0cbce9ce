import ModuleDocs.Yaml.Scalar
import ModuleDocs.Yaml.Token

/-!
# YAML documents

From tokens to the content of a document. Anchors name nodes that are used again, tags say what a node is,
and a key `<<` merges other mappings. A text with more than one document is refused, and so is one with a set, with
binary data or with a node that is a part of itself.
-/

namespace ModuleDocs.Yaml

/-- A part of a document before it is known what it stands for. -/
inductive Part where
  | scalar (tag : Option Text) (plain : Bool) (t : Text)
  | sequence (tag : Option Text) (items : List Part)
  | mapping (tag : Option Text) (entries : List (Part × Part))
  deriving Repr

namespace Part

def empty : Part := .scalar none true []

def withTag (tag : Option Text) : Part → Part
  | scalar _ p t => .scalar tag p t
  | sequence _ items => .sequence tag items
  | mapping _ entries => .mapping tag entries

/-- A node as a key, where the sign that stands for no value is a text. -/
def asKey : Part → Part
  | scalar none true t => .scalar none (t != [CodePoint.ofChar '=']) t
  | p => p

end Part

/-! ### Grammar -/

/-- What is being read: tokens that are left, named nodes and handles of tags. -/
structure Reading where
  tokens : List Token
  anchors : List (Text × Part)
  handles : List (Text × Text)

/-- Reading, which may be refused. -/
abbrev Reader := StateT Reading Option

def current : Reader (Option Token) := do return (← get).tokens.head?

def advance : Reader Unit := modify fun r => { r with tokens := r.tokens.drop 1 }

def next (ts : List Token) : Reader Bool := do return (← current).any ts.contains

def expect (t : Token) : Reader Unit := do
  if ← next [t] then advance else failure

def fullTag (handle : Option Text) (suffix : Text) : Reader Text := do
  match handle with
  | none => return suffix
  | some h =>
    match (← get).handles.lookup h with
    | some start => return start ++ suffix
    | none => failure

def properties : Reader (Option Text × Option Text) := do
  match ← current with
  | some (.anchor n) =>
    advance
    match ← current with
    | some (.tag h t) =>
      advance
      return (some n, some (← fullTag h t))
    | _ => return (some n, none)
  | some (.tag h t) =>
    advance
    let tag ← fullTag h t
    match ← current with
    | some (.anchor n) =>
      advance
      return (some n, some tag)
    | _ => return (none, some tag)
  | _ => return (none, none)

mutual

/-- A node. Within brackets there are no blocks; after a key a sequence need not be indented. -/
def node (blocks indentless : Bool) : Nat → Reader Part
  | 0 => failure
  | fuel + 1 => do
    match ← current with
    | some (.reference n) =>
      advance
      match (← get).anchors.lookup n with
      | some p => return p
      | none => failure
    | _ =>
      let (anchor, tag) ← properties
      let known := (← get).anchors
      if anchor.any fun n => (known.lookup n).isSome then failure
      let p ← content blocks indentless (anchor.isSome || tag.isSome) fuel
      let p := p.withTag tag
      match anchor with
      | some n => modify fun r => { r with anchors := (n, p) :: r.anchors }
      | none => pure ()
      return p

def content (blocks indentless described : Bool) : Nat → Reader Part
  | 0 => failure
  | fuel + 1 => do
    match ← current with
    | some .blockEntry =>
      if indentless then return .sequence none (← entriesIndentless fuel)
      else if described then return .empty
      else failure
    | some (.scalar plain t) =>
      advance
      return .scalar none plain t
    | some .flowSequence =>
      advance
      return .sequence none (← flowItems true fuel)
    | some .flowMapping =>
      advance
      return .mapping none (← flowPairs true fuel)
    | some .blockSequence =>
      if blocks then
        advance
        return .sequence none (← entries fuel)
      else if described then return .empty
      else failure
    | some .blockMapping =>
      if blocks then
        advance
        return .mapping none (← pairs fuel)
      else if described then return .empty
      else failure
    | _ => if described then return .empty else failure

/-- A node, or nothing before one of some tokens. -/
def nodeUnless (ends : List Token) (blocks indentless : Bool) : Nat → Reader Part
  | 0 => failure
  | fuel + 1 => do
    if ← next ends then return .empty else node blocks indentless fuel

def entries : Nat → Reader (List Part)
  | 0 => failure
  | fuel + 1 => do
    if ← next [.blockEntry] then
      advance
      let p ← nodeUnless [.blockEntry, .blockEnd] true false fuel
      return p :: (← entries fuel)
    else
      expect .blockEnd
      return []

def entriesIndentless : Nat → Reader (List Part)
  | 0 => failure
  | fuel + 1 => do
    if ← next [.blockEntry] then
      advance
      let p ← nodeUnless [.blockEntry, .key, .value, .blockEnd] true false fuel
      return p :: (← entriesIndentless fuel)
    else return []

def pairs : Nat → Reader (List (Part × Part))
  | 0 => failure
  | fuel + 1 => do
    if ← next [.key] then
      advance
      let k ← nodeUnless [.key, .value, .blockEnd] true true fuel
      let v ←
        if ← next [.value] then
          advance
          nodeUnless [.key, .value, .blockEnd] true true fuel
        else pure .empty
      return (k, v) :: (← pairs fuel)
    else
      expect .blockEnd
      return []

def flowValue (ends : List Token) : Nat → Reader Part
  | 0 => failure
  | fuel + 1 => do
    if ← next [.value] then
      advance
      nodeUnless ends false false fuel
    else return .empty

def flowItems (first : Bool) : Nat → Reader (List Part)
  | 0 => failure
  | fuel + 1 => do
    if ← next [.flowSequenceEnd] then
      advance
      return []
    else
      if !first then expect .flowEntry
      if ← next [.key] then
        advance
        let k ← nodeUnless [.value, .flowEntry, .flowSequenceEnd] false false fuel
        let v ← flowValue [.flowEntry, .flowSequenceEnd] fuel
        return .mapping none [(k, v)] :: (← flowItems false fuel)
      else if ← next [.flowSequenceEnd] then
        advance
        return []
      else
        let p ← node false false fuel
        return p :: (← flowItems false fuel)

def flowPairs (first : Bool) : Nat → Reader (List (Part × Part))
  | 0 => failure
  | fuel + 1 => do
    if ← next [.flowMappingEnd] then
      advance
      return []
    else
      if !first then expect .flowEntry
      if ← next [.key] then
        advance
        let k ← nodeUnless [.value, .flowEntry, .flowMappingEnd] false false fuel
        let v ← flowValue [.flowEntry, .flowMappingEnd] fuel
        return (k, v) :: (← flowPairs false fuel)
      else if ← next [.flowMappingEnd] then
        advance
        return []
      else
        let k ← node false false fuel
        return (k, .empty) :: (← flowPairs false fuel)

end

def standardTag : Text := "tag:yaml.org,2002:"

def directives (seenVersion : Bool) : Nat → Reader Unit
  | 0 => failure
  | fuel + 1 => do
    match ← current with
    | some (.directive name arguments) =>
      advance
      if name = Text.ofString "YAML" then
        match arguments with
        | [v] =>
          if seenVersion || v.take 2 != Text.ofString "1." then failure
          directives true fuel
        | _ => failure
      else if name = Text.ofString "TAG" then
        match arguments with
        | [h, start] =>
          modify fun r => { r with handles := (h, start) :: r.handles }
          directives seenVersion fuel
        | _ => failure
      else directives seenVersion fuel
    | _ => return ()

def documentEnds : Nat → Reader Unit
  | 0 => return ()
  | fuel + 1 => do
    if ← next [.documentEnd] then
      advance
      documentEnds fuel

def atDirective : Reader Bool := do
  match ← current with
  | some (.directive _ _) => return true
  | _ => return false

/-- The only document of a text; none if there is no document. -/
def document (fuel : Nat) : Reader (Option Part) := do
  if (← current).isNone then return none
  let part ←
    if (← atDirective) || (← next [.documentStart]) then
      directives false fuel
      expect .documentStart
      if (← current).isNone || (← atDirective) || (← next [.documentStart, .documentEnd]) then pure Part.empty
      else node true false fuel
    else node true false fuel
  documentEnds fuel
  if (← current).isSome then failure
  return some part

/-! ### Content -/

def isMerge : Part → Bool
  | .scalar none true t => t == Text.ofString "<<"
  | .scalar (some tag) _ _ => tag == standardTag ++ Text.ofString "merge"
  | _ => false

def isKey : Yaml → Bool
  | .list _ => false
  | .map _ => false
  | _ => true

def sameKey : Yaml → Yaml → Bool
  | .str a, .str b => a == b
  | _, _ => false

/-- Sets an entry: a key that is present keeps its place. -/
def setEntry (entries : List (Yaml × Yaml)) (e : Yaml × Yaml) : List (Yaml × Yaml) :=
  if entries.any fun d => sameKey d.1 e.1 then entries.map fun d => if sameKey d.1 e.1 then (d.1, e.2) else d
  else entries ++ [e]

def tagged? (tag t : Text) : Option Yaml :=
  let is (s : String) : Bool := tag == standardTag ++ Text.ofString s
  if is "str" then some (.str t)
  else if is "null" then some .null
  else if is "timestamp" then
    match t.toString?.bind fun s => dateForm? s.toList with
    | some .date => some .date
    | some .time => some .time
    | _ => none
  else if is "int" || is "float" || is "bool" then
    match ofPlain t with
    | some (.int n) =>
      some (if is "float" then .float (decide (n < 0)) (Binary64.ofDecimal n.natAbs 0) else .int n)
    | some (.bool b) => if is "bool" then some (.bool b) else none
    | some (.float s m) => if is "float" then some (.float s m) else none
    | _ => none
  else none

mutual

def contentOf : Nat → Part → Option Yaml
  | 0, _ => none
  | fuel + 1, p =>
    match p with
    | .scalar tag plain t =>
      match tag with
      | none => if plain then ofPlain t else some (.str t)
      | some tag => if tag == Text.ofString "!" then ofPlain t else tagged? tag t
    | .sequence tag items =>
      if tag.all fun g => g == Text.ofString "!" || g == standardTag ++ Text.ofString "seq" then do
        return .list (← items.mapM (contentOf fuel))
      else none
    | .mapping tag entries =>
      if tag.all fun g => g == Text.ofString "!" || g == standardTag ++ Text.ofString "map" then do
        let flat ← flatten fuel entries
        let pairs ← flat.mapM fun (k, v) => do
          let k ← contentOf fuel k
          if isKey k then
            let v ← contentOf fuel v
            return (k, v)
          else none
        return .map (pairs.foldl setEntry [])
      else none

/-- The entries of a mapping, those of merged mappings first. -/
def flatten : Nat → List (Part × Part) → Option (List (Part × Part))
  | 0, _ => none
  | fuel + 1, entries => do
    let own := (entries.filter fun e => !isMerge e.1).map fun e => (e.1.asKey, e.2)
    let merged ← (entries.filter fun e => isMerge e.1).mapM fun e =>
      match e.2 with
      | .mapping _ es => flatten fuel es
      | .sequence _ items => do
        let lists ← items.mapM fun
          | .mapping _ es => flatten fuel es
          | _ => none
        return lists.reverse.flatten
      | _ => none
    return merged.flatten ++ own

end

/-- Reads a text. A text without a document is null; the result is none if the text is not YAML. -/
def read? (t : Text) : Option Yaml := do
  let ts ← tokens? t
  let fuel := 4 * ts.length + 8
  let start : Reading := ⟨ts, [], [("!", "!"), ("!!", standardTag)]⟩
  let (part, _) ← (document fuel).run start
  match part with
  | none => return .null
  | some p => contentOf (fuel + 1) p

mutual

/-- The content as an untyped value. Dates have no counterpart: they become empty mappings, which no setting
accepts either. -/
def toValue : Yaml → Value
  | null => .null
  | bool b => .bool b
  | int n => .int n
  | float s m => .float s m
  | notANumber => .notANumber
  | str t => .str t
  | date => .map []
  | time => .map []
  | list items => .list (itemsToValue items)
  | map _ => .map []

def itemsToValue : List Yaml → List Value
  | [] => []
  | v :: vs => toValue v :: itemsToValue vs

end

end ModuleDocs.Yaml
