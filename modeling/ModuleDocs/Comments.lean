import ModuleDocs.Value.Basic

/-!
# Comments

The doc comments of a declaration and of its members, as a tree, and its form as untyped data: a mapping
with the comment and, if there are any, the members.
-/

namespace ModuleDocs

/-- What is said about a declaration, and about its members by name. -/
inductive CommentTree (α : Type) where
  | mk (comment : α) (members : List (Text × CommentTree α))
  deriving Repr

namespace CommentTree

variable {α β : Type}

def comment : CommentTree α → α
  | mk c _ => c

/-- The comments of the members, in order. -/
def members : CommentTree α → List (Text × CommentTree α)
  | mk _ ms => ms

mutual

def map (f : α → β) : CommentTree α → CommentTree β
  | mk c ms => mk (f c) (mapMembers f ms)

def mapMembers (f : α → β) : List (Text × CommentTree α) → List (Text × CommentTree β)
  | [] => []
  | (n, c) :: ms => (n, map f c) :: mapMembers f ms

end

end CommentTree

/-- Comments read from a source, where a declaration may have none. -/
abbrev Comments := CommentTree (Option Text)

/-- Comments as untyped data has them. Any value stands for a comment, and null for none. -/
abbrev CommentData := CommentTree Value

namespace CommentData

/-- The comment of a member, the empty text if it has none. -/
def commentFor (c : CommentData) (name : Text) : Value :=
  match (c.members.lookup name).map CommentTree.comment with
  | none => .str []
  | some .null => .str []
  | some v => v

mutual

def toValue : CommentData → Value
  | .mk c ms =>
    .map ((Text.ofString "comment", c) ::
      if ms.isEmpty then [] else [(Text.ofString "members", .map (membersToValue ms))])

def membersToValue : List (Text × CommentData) → List (Text × Value)
  | [] => []
  | (n, c) :: ms => (n, toValue c) :: membersToValue ms

end

/-- Why untyped data describes no tree. -/
inductive Fault where
  /-- A value that should be a mapping with a comment and members. -/
  | declaration (value : Value)
  /-- A value that should be a mapping with members. -/
  | members (value : Value)
  deriving Repr

mutual

/-- Reads the tree that untyped data describes (`from_dict`). A comment that is missing is null, and members
that are missing or count as none are none; of two entries with one key the later holds, and other keys mean
nothing. -/
def read : Value → Except Fault CommentData
  | .map entries => do
    let ms ← membersIn entries
    return .mk ((Value.get? entries "comment").getD .null) ms
  | v => .error (.declaration v)

def membersIn : List (Text × Value) → Except Fault (List (Text × CommentData))
  | [] => .ok []
  | (k, v) :: es =>
    if es.any fun e => e.1 == Text.ofString "members" then membersIn es
    else if k = Text.ofString "members" then membersFrom v
    else membersIn es

def membersFrom : Value → Except Fault (List (Text × CommentData))
  | .map ms => readMembers ms
  | v => if v.isVoid then .ok [] else .error (.members v)

def readMembers : List (Text × Value) → Except Fault (List (Text × CommentData))
  | [] => .ok []
  | (n, v) :: ms => do
    let c ← read v
    let cs ← readMembers ms
    return (n, c) :: cs

end

end CommentData

namespace Comments

def empty : Comments := .mk none []

/-- The comment of a member, empty if it has none. -/
def commentFor (c : Comments) (name : Text) : Text :=
  ((c.members.lookup name).bind (·.comment)).getD []

/-- Puts a member at a name: a name that is present keeps its place. -/
def put (members : List (Text × Comments)) (name : Text) (c : Comments) : List (Text × Comments) :=
  if members.any fun m => m.1 == name then
    members.map fun m => if m.1 == name then (name, c) else m
  else members ++ [(name, c)]

def commentValue : Option Text → Value
  | some t => .str t
  | none => .null

/-- The comment that untyped data stands for, if it is a text. -/
def commentOf : Value → Option Text
  | .str t => some t
  | _ => none

def toData (c : Comments) : CommentData := c.map commentValue

def ofData (c : CommentData) : Comments := c.map commentOf

end Comments

end ModuleDocs
