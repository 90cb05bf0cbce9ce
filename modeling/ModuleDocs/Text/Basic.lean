/-!
# Texts

A text is a list of code points. Every character is a code point, and so are the surrogates U+D800 to
U+DFFF, which no character has: a string literal can spell them and an undecodable file name is held with
them. `Text.toString?` gives back a string exactly when no surrogate occurs.
-/

namespace ModuleDocs

/-- A number below the end of the Unicode code space, surrogates included. -/
abbrev CodePoint := Fin 0x110000

abbrev Text := List CodePoint

namespace CodePoint

def ofChar (c : Char) : CodePoint :=
  ⟨c.toNat, by
    have h : c.toNat.isValidChar := c.valid
    rcases h with h | ⟨_, h⟩
    · exact Nat.lt_trans h (by decide)
    · exact h⟩

instance : Coe Char CodePoint := ⟨ofChar⟩

def isSurrogate (c : CodePoint) : Bool := 0xD800 ≤ c.val && c.val ≤ 0xDFFF

/-- The character with this code point, if there is one. -/
def toChar? (c : CodePoint) : Option Char :=
  if h : c.val.isValidChar then some (Char.ofNatAux c.val h) else none

def ofNat (n : Nat) : CodePoint := Fin.ofNat 0x110000 n

def asciiLower (c : CodePoint) : CodePoint :=
  if 0x41 ≤ c.val ∧ c.val ≤ 0x5A then ofNat (c.val + 32) else c

theorem toChar?_ofChar (c : Char) : (ofChar c).toChar? = some c := by
  have h : c.toNat.isValidChar := c.valid
  unfold toChar?
  exact dif_pos h

end CodePoint

namespace Text

def ofString (s : String) : Text := s.toList.map CodePoint.ofChar

instance : Coe String Text := ⟨ofString⟩

instance : HAppend Text String Text := ⟨fun t s => t ++ ofString s⟩

instance : HAppend String Text Text := ⟨fun s t => ofString s ++ t⟩

def toChars? (t : Text) : Option (List Char) := t.mapM CodePoint.toChar?

def toString? (t : Text) : Option String := t.toChars?.map String.ofList

/-- A text printed for display, with U+FFFD in place of a surrogate. -/
def toStringLossy (t : Text) : String :=
  String.ofList (t.map fun c => c.toChar?.getD '�')

/-- The texts one after another, with a separator between neighbours. -/
def join (sep : Text) (parts : List Text) : Text := (parts.intersperse sep).flatten

/-- What the code points come to together, each with a number of its own. -/
def total (f : CodePoint → Nat) (t : Text) : Nat := t.foldr (fun c n => f c + n) 0

def ofNat (n : Nat) : Text := ofString (toString n)

/-- Whether the first text comes before the second, comparing code points. -/
def lt (a b : Text) : Bool :=
  match a, b with
  | [], [] => false
  | [], _ :: _ => true
  | _ :: _, [] => false
  | x :: xs, y :: ys => x < y || (x == y && lt xs ys)

def includes (t part : Text) : Bool :=
  part.isPrefixOf t ||
    match t with
    | [] => false
    | _ :: rest => includes rest part

theorem total_cons (f : CodePoint → Nat) (c : CodePoint) (t : Text) : total f (c :: t) = f c + t.total f := rfl

theorem total_append (f : CodePoint → Nat) (s t : Text) : total f (s ++ t) = s.total f + t.total f := by
  induction s with
  | nil => exact (Nat.zero_add _).symm
  | cons c s ih => rw [List.cons_append, total_cons, total_cons, ih, Nat.add_assoc]

theorem toChars?_map_ofChar (cs : List Char) : toChars? (cs.map CodePoint.ofChar) = some cs := by
  induction cs with
  | nil => rfl
  | cons c cs ih =>
    have ih' : List.mapM CodePoint.toChar? (cs.map CodePoint.ofChar) = some cs := ih
    simp [toChars?, CodePoint.toChar?_ofChar, ih']

theorem toString?_ofString (s : String) : toString? (ofString s) = some s := by
  simp [toString?, ofString, toChars?_map_ofChar]

end Text

end ModuleDocs
