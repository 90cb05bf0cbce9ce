import Mathlib.Tactic.SplitIfs
import ModuleDocs.Page

/-!
# Reading markup

A reader of HTML that takes one step for each code point: it is in a text, in the name of a tag, between
attributes, or in the name or the value of an attribute. What is written as tags and escaped texts is read
back as these tags and texts, whatever the texts and the values of the attributes are (`read_write`).
-/

namespace ModuleDocs

namespace Page

/-! ## References -/

def reference? (name : Text) : Option CodePoint :=
  if name = "amp" then some (CodePoint.ofChar '&')
  else if name = "lt" then some (CodePoint.ofChar '<')
  else if name = "gt" then some (CodePoint.ofChar '>')
  else if name = "#39" then some (CodePoint.ofChar '\'')
  else if name = "#34" then some (CodePoint.ofChar '"')
  else none

/-- The text of a reference; one with an unknown name stands for itself. -/
def dereference (name : Text) : Text :=
  match reference? name with
  | some c => [c]
  | none => "&" ++ name ++ ";"

/-- The text with its references replaced, inside a reference when the beginning of a name is given. -/
def unescapeFrom : Option Text → Text → Text
  | none, [] => []
  | some name, [] => "&" ++ name
  | none, c :: t =>
    if c = CodePoint.ofChar '&' then unescapeFrom (some []) t else c :: unescapeFrom none t
  | some name, c :: t =>
    if c = CodePoint.ofChar ';' then dereference name ++ unescapeFrom none t
    else unescapeFrom (some (name ++ [c])) t

/-- The text with its references replaced. -/
def unescape (t : Text) : Text := unescapeFrom none t

/-- Whether a code point ends neither a text nor the value of an attribute. -/
def isContent (c : CodePoint) : Bool := c ≠ CodePoint.ofChar '<' && c ≠ CodePoint.ofChar '"'

theorem isContent_iff {c : CodePoint} :
    isContent c = true ↔ c ≠ CodePoint.ofChar '<' ∧ c ≠ CodePoint.ofChar '"' := by
  simp [isContent]

theorem unescapeFrom_escapePoint (c : CodePoint) (t : Text) :
    unescapeFrom none (escapePoint c ++ t) = c :: unescapeFrom none t := by
  unfold escapePoint
  split_ifs with hamp hlt hgt hsingle hdouble
  · rw [hamp]; rfl
  · rw [hlt]; rfl
  · rw [hgt]; rfl
  · rw [hsingle]; rfl
  · rw [hdouble]; rfl
  · simp only [List.singleton_append, unescapeFrom, hamp, ↓reduceIte]

theorem isContent_escapePoint (c : CodePoint) : (escapePoint c).all isContent = true := by
  unfold escapePoint
  split_ifs with hamp hlt hgt hsingle hdouble
  · rfl
  · rfl
  · rfl
  · rfl
  · rfl
  · simp [isContent, hlt, hdouble]

@[simp] theorem escape_append (s t : Text) : escape (s ++ t) = escape s ++ escape t :=
  List.flatMap_append

/-- Replacing the references undoes the escaping. -/
theorem unescape_escape (t : Text) : unescape (escape t) = t := by
  induction t with
  | nil => rfl
  | cons c t ih =>
    show unescapeFrom none (escapePoint c ++ escape t) = c :: t
    rw [unescapeFrom_escapePoint]
    exact congrArg (c :: ·) ih

theorem isContent_escape (t : Text) : (escape t).all isContent = true := by
  induction t with
  | nil => rfl
  | cons c t ih =>
    show (escapePoint c ++ escape t).all isContent = true
    rw [List.all_append, Bool.and_eq_true]
    exact ⟨isContent_escapePoint c, ih⟩

/-- Whether a code point stands for itself in HTML text. -/
def isPlain (c : CodePoint) : Bool :=
  c ≠ CodePoint.ofChar '&' && c ≠ CodePoint.ofChar '<' && c ≠ CodePoint.ofChar '>' &&
    c ≠ CodePoint.ofChar '\'' && c ≠ CodePoint.ofChar '"'

theorem ofChar_injective : Function.Injective CodePoint.ofChar := by
  intro c d h
  have hchar := congrArg CodePoint.toChar? h
  rw [CodePoint.toChar?_ofChar, CodePoint.toChar?_ofChar] at hchar
  exact Option.some.inj hchar

@[simp] theorem isPlain_ofChar (c : Char) : isPlain (CodePoint.ofChar c) =
    (c ≠ '&' && c ≠ '<' && c ≠ '>' && c ≠ '\'' && c ≠ '"' : Bool) := by
  simp only [isPlain, ne_eq, ofChar_injective.eq_iff]

@[simp] theorem escape_nil : escape [] = [] := rfl

@[simp] theorem escape_cons_of_isPlain {c : CodePoint} (h : isPlain c = true) (t : Text) :
    escape (c :: t) = c :: escape t := by
  simp only [isPlain, Bool.and_eq_true, decide_eq_true_eq, ne_eq] at h
  obtain ⟨⟨⟨⟨hamp, hlt⟩, hgt⟩, hsingle⟩, hdouble⟩ := h
  show escapePoint c ++ escape t = c :: escape t
  simp only [escapePoint, hamp, hlt, hgt, hsingle, hdouble, ↓reduceIte, List.singleton_append]

theorem escape_of_isPlain {t : Text} (h : t.all isPlain = true) : escape t = t := by
  induction t with
  | nil => rfl
  | cons c t ih =>
    simp only [List.all_cons, Bool.and_eq_true] at h
    rw [escape_cons_of_isPlain h.1, ih h.2]

/-! ## Tags and the reader -/

/-- A tag with its attributes in order; the name of a closing tag begins with a slash. -/
structure Tag where
  name : Text
  attributes : List (Text × Option Text)
  deriving Repr, DecidableEq

def Tag.bare (name : Text) : Tag := ⟨name, []⟩

/-- A tag with the text between the tag before and it. -/
structure Piece where
  text : Text
  tag : Tag
  deriving Repr, DecidableEq

def Piece.add (p : Piece) (a : Text × Option Text) : Piece := ⟨p.text, p.tag.name, p.tag.attributes ++ [a]⟩

/-- What the reader has in hand. -/
inductive Reading where
  | text (t : Text)
  | name (t n : Text)
  | gap (p : Piece)
  | key (p : Piece) (a : Text)
  | equals (p : Piece) (a : Text)
  | value (p : Piece) (a v : Text)

namespace Reading

/-- The step at a code point. An attribute whose value is not quoted is passed over. -/
def next (r : Reading) (c : CodePoint) : Reading :=
  match r with
  | text t => if c = CodePoint.ofChar '<' then name (unescape t) [] else text (t ++ [c])
  | name t n =>
    if c = CodePoint.ofChar '>' then text []
    else if c = CodePoint.ofChar ' ' then gap ⟨t, Tag.bare n⟩
    else name t (n ++ [c])
  | gap p =>
    if c = CodePoint.ofChar '>' then text []
    else if c = CodePoint.ofChar ' ' then gap p
    else key p [c]
  | key p a =>
    if c = CodePoint.ofChar '>' then text []
    else if c = CodePoint.ofChar ' ' then gap (p.add (a, none))
    else if c = CodePoint.ofChar '=' then equals p a
    else key p (a ++ [c])
  | equals p a => if c = CodePoint.ofChar '"' then value p a [] else gap p
  | value p a v =>
    if c = CodePoint.ofChar '"' then gap (p.add (a, some (unescape v))) else value p a (v ++ [c])

/-- What a closing bracket completes. -/
def held : Reading → List Piece
  | name t n => [⟨t, Tag.bare n⟩]
  | gap p => [p]
  | key p a => [p.add (a, none)]
  | _ => []

def out (r : Reading) (c : CodePoint) : List Piece :=
  if c = CodePoint.ofChar '>' then r.held else []

def pieces : Reading → Text → List Piece
  | _, [] => []
  | r, c :: t => r.out c ++ pieces (r.next c) t

end Reading

/-- The tags of a page, each with the text before it. -/
def read (t : Text) : List Piece := (Reading.text []).pieces t

/-! ## The writer -/

def writeAttribute : Text × Option Text → Text
  | (a, none) => " " ++ a
  | (a, some v) => " " ++ a ++ "=\"" ++ escape v ++ "\""

def Tag.write (g : Tag) : Text := "<" ++ g.name ++ g.attributes.flatMap writeAttribute ++ ">"

def Piece.write (p : Piece) : Text := escape p.text ++ p.tag.write

/-- Whether a code point may stand in the name of a tag or an attribute. -/
def isNamePoint (c : CodePoint) : Bool :=
  c ≠ CodePoint.ofChar ' ' && c ≠ CodePoint.ofChar '>' && c ≠ CodePoint.ofChar '='

theorem isNamePoint_iff {c : CodePoint} : isNamePoint c = true ↔
    c ≠ CodePoint.ofChar ' ' ∧ c ≠ CodePoint.ofChar '>' ∧ c ≠ CodePoint.ofChar '=' := by
  simp [isNamePoint, and_assoc]

def isName (n : Text) : Bool := !n.isEmpty && n.all isNamePoint

/-- The names in a tag: its own, and those of its attributes in order. -/
def Tag.names (g : Tag) : List Text := g.name :: g.attributes.map Prod.fst

/-- Whether the tag of a piece is made of proper names. -/
def Piece.isProper (p : Piece) : Bool := p.tag.names.all isName

theorem Piece.isProper_iff {p : Piece} : p.isProper = true ↔
    isName p.tag.name = true ∧ ∀ a ∈ p.tag.attributes, isName a.1 = true := by
  simp [isProper, Tag.names]

namespace Reading

/-- The readings of a family gather the code points of a kind: each is put at the end of what they hold. -/
def Gathers (f : Text → Reading) (kind : CodePoint → Bool) : Prop :=
  ∀ t c, kind c = true → (f t).out c = [] ∧ (f t).next c = f (t ++ [c])

theorem Gathers.pieces {f : Text → Reading} {kind : CodePoint → Bool} (h : Gathers f kind) (t rest : Text)
    {s : Text} (hs : s.all kind = true) : (f t).pieces (s ++ rest) = (f (t ++ s)).pieces rest := by
  induction s generalizing t with
  | nil => rw [List.append_nil]; rfl
  | cons c s ih =>
    simp only [List.all_cons, Bool.and_eq_true] at hs
    obtain ⟨hout, hnext⟩ := h t c hs.1
    show (f t).out c ++ ((f t).next c).pieces (s ++ rest) = _
    rw [hout, hnext, ih (t ++ [c]) hs.2, List.append_assoc]
    rfl

theorem text_gathers : Gathers text isContent := by
  intro t c hc
  obtain ⟨hopen, -⟩ := isContent_iff.mp hc
  simp [out, held, next, hopen]

theorem name_gathers (t : Text) : Gathers (name t) isNamePoint := by
  intro n c hc
  obtain ⟨hblank, hclose, -⟩ := isNamePoint_iff.mp hc
  simp [out, next, hblank, hclose]

theorem key_gathers (p : Piece) : Gathers (key p) isNamePoint := by
  intro a c hc
  obtain ⟨hblank, hclose, hequals⟩ := isNamePoint_iff.mp hc
  simp [out, next, hblank, hclose, hequals]

theorem value_gathers (p : Piece) (a : Text) : Gathers (value p a) isContent := by
  intro v c hc
  obtain ⟨-, hquote⟩ := isContent_iff.mp hc
  simp [out, held, next, hquote]

/-- A reading with a whole piece in hand, which a blank continues and a bracket closes. -/
structure Holds (r : Reading) (p : Piece) : Prop where
  held : r.held = [p]
  blank : r.next (CodePoint.ofChar ' ') = gap p
  close : r.next (CodePoint.ofChar '>') = text []

theorem name_holds (t n : Text) : (name t n).Holds ⟨t, Tag.bare n⟩ := ⟨rfl, rfl, rfl⟩

theorem gap_holds (p : Piece) : (gap p).Holds p := ⟨rfl, rfl, rfl⟩

theorem key_holds (p : Piece) (a : Text) : (key p a).Holds (p.add (a, none)) := ⟨rfl, rfl, rfl⟩

theorem Holds.pieces_blank {r : Reading} {p : Piece} (h : r.Holds p) (rest : Text) :
    r.pieces (CodePoint.ofChar ' ' :: rest) = (gap p).pieces rest := by
  show r.out _ ++ (r.next _).pieces rest = _
  rw [h.blank]
  rfl

theorem Holds.pieces_close {r : Reading} {p : Piece} (h : r.Holds p) (rest : Text) :
    r.pieces (CodePoint.ofChar '>' :: rest) = p :: (text []).pieces rest := by
  show r.held ++ (r.next _).pieces rest = _
  rw [h.close, h.held]
  rfl

/-- The name of an attribute, after the blank before it. -/
theorem gap_pieces_key (p : Piece) {a : Text} (ha : isName a = true) (rest : Text) :
    (gap p).pieces (a ++ rest) = (key p a).pieces rest := by
  cases a with
  | nil => cases ha
  | cons c a =>
    simp only [isName, List.isEmpty_cons, Bool.not_false, Bool.true_and, List.all_cons,
      Bool.and_eq_true] at ha
    obtain ⟨hblank, hclose, -⟩ := isNamePoint_iff.mp ha.1
    have hout : (gap p).out c = [] := by simp [out, hclose]
    have hnext : (gap p).next c = key p [c] := by simp [next, hblank, hclose]
    show (gap p).out c ++ ((gap p).next c).pieces (a ++ rest) = _
    rw [hout, hnext]
    exact (key_gathers p).pieces [c] rest ha.2

/-- An attribute is added to the piece in hand. -/
theorem Holds.attribute {r : Reading} {p : Piece} (h : r.Holds p) {a : Text × Option Text}
    (ha : isName a.1 = true) :
    ∃ r' : Reading, r'.Holds (p.add a) ∧
      ∀ rest, r.pieces (writeAttribute a ++ rest) = r'.pieces rest := by
  obtain ⟨a, v⟩ := a
  cases v with
  | none =>
    refine ⟨key p a, key_holds p a, fun rest => ?_⟩
    show r.pieces (CodePoint.ofChar ' ' :: (a ++ rest)) = _
    rw [h.pieces_blank, gap_pieces_key p ha]
  | some v =>
    refine ⟨gap (p.add (a, some v)), gap_holds _, fun rest => ?_⟩
    have hvalue : writeAttribute (a, some v) ++ rest = CodePoint.ofChar ' ' :: (a ++
        (CodePoint.ofChar '=' :: CodePoint.ofChar '"' :: (escape v ++ (CodePoint.ofChar '"' :: rest)))) := by
      simp [writeAttribute, Text.ofString]
    rw [hvalue, h.pieces_blank, gap_pieces_key p ha]
    show (value p a []).pieces (escape v ++ (CodePoint.ofChar '"' :: rest)) = _
    rw [(value_gathers p a).pieces [] _ (isContent_escape v)]
    show (gap (p.add (a, some (unescape (escape v))))).pieces rest = _
    rw [unescape_escape]

theorem Holds.attributes {r : Reading} {p : Piece} (h : r.Holds p) {as : List (Text × Option Text)}
    (has : ∀ a ∈ as, isName a.1 = true) (rest : Text) :
    r.pieces (as.flatMap writeAttribute ++ CodePoint.ofChar '>' :: rest) =
      ⟨p.text, p.tag.name, p.tag.attributes ++ as⟩ :: (text []).pieces rest := by
  induction as generalizing r p with
  | nil =>
    rw [List.append_nil]
    exact h.pieces_close rest
  | cons a as ih =>
    obtain ⟨r', hr', hread⟩ := h.attribute (has a (List.mem_cons_self ..))
    have hrest := ih hr' fun b hb => has b (List.mem_cons_of_mem _ hb)
    rw [List.flatMap_cons, List.append_assoc, hread, hrest]
    simp [Piece.add]

/-- A written piece is read back, whatever comes after it. -/
theorem text_pieces_write {p : Piece} (hp : p.isProper = true) (rest : Text) :
    (text []).pieces (p.write ++ rest) = p :: (text []).pieces rest := by
  obtain ⟨hname, hkeys⟩ := Piece.isProper_iff.mp hp
  have hall : p.tag.name.all isNamePoint = true := (Bool.and_eq_true_iff.mp hname).2
  have hwrite : p.write ++ rest = escape p.text ++ (CodePoint.ofChar '<' :: (p.tag.name ++
      (p.tag.attributes.flatMap writeAttribute ++ CodePoint.ofChar '>' :: rest))) := by
    simp [Piece.write, Tag.write, Text.ofString]
  rw [hwrite, text_gathers.pieces [] _ (isContent_escape p.text)]
  show (name (unescape (escape p.text)) []).pieces _ = _
  rw [unescape_escape, (name_gathers p.text).pieces [] _ hall,
    (name_holds p.text ([] ++ p.tag.name)).attributes hkeys]
  rfl

theorem text_pieces_escape (t : Text) : (text []).pieces (escape t) = [] := by
  have h := text_gathers.pieces [] [] (isContent_escape t)
  rw [List.append_nil] at h
  rw [h]
  rfl

end Reading

/-- Written pieces are read back, whatever their texts and the values of their attributes are. -/
theorem read_write {ps : List Piece} (hps : ps.all Piece.isProper = true) (rest : Text) :
    read (ps.flatMap Piece.write ++ escape rest) = ps := by
  induction ps with
  | nil => exact Reading.text_pieces_escape rest
  | cons p ps ih =>
    simp only [List.all_cons, Bool.and_eq_true] at hps
    rw [List.flatMap_cons, List.append_assoc]
    exact (Reading.text_pieces_write hps.1 _).trans (congrArg (p :: ·) (ih hps.2))

end Page

end ModuleDocs
