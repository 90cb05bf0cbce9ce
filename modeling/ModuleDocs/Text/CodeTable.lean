/-!
# Tables of code points

Properties of characters are kept as rows of hexadecimal numbers. A span is `first` or `first-last`; a
mapping is a span or a single code point, a colon, and the code points it maps to, joined by commas. Spans
and mappings are separated by blanks.
-/

namespace ModuleDocs.CodeTable

/-- The code points from `first` to `last`. -/
structure Span where
  first : Nat
  last : Nat
  deriving Repr, DecidableEq

namespace Span

def holds (s : Span) (n : Nat) : Bool := s.first ≤ n && n ≤ s.last

end Span

/-- The value of a hexadecimal digit; anything else counts as zero. -/
def hexDigit (c : Char) : Nat :=
  if '0' ≤ c ∧ c ≤ '9' then c.toNat - 48
  else if 'A' ≤ c ∧ c ≤ 'F' then c.toNat - 55
  else if 'a' ≤ c ∧ c ≤ 'f' then c.toNat - 87
  else 0

def hexNumber (s : List Char) : Nat := s.foldl (fun n c => 16 * n + hexDigit c) 0

def pieces (sep : Char) (row : List Char) : List (List Char) :=
  row.foldr
    (fun c acc =>
      if c = sep then [] :: acc
      else
        match acc with
        | [] => [[c]]
        | p :: ps => (c :: p) :: ps)
    [[]]

def span (piece : List Char) : Span :=
  match pieces '-' piece with
  | [a] => ⟨hexNumber a, hexNumber a⟩
  | a :: b :: _ => ⟨hexNumber a, hexNumber b⟩
  | [] => ⟨0, 0⟩

def spans (rows : List String) : Array Span :=
  (rows.flatMap fun row => (pieces ' ' row.toList).map span).toArray

def holds (table : Array Span) (n : Nat) : Bool := table.any fun s => s.holds n

/-- A span of code points with what its first one maps to. -/
structure Mapping where
  source : Span
  image : List Nat
  deriving Repr

def mapping (piece : List Char) : Mapping :=
  match pieces ':' piece with
  | a :: b :: _ => ⟨span a, (pieces ',' b).map hexNumber⟩
  | _ => ⟨⟨0, 0⟩, [0]⟩

def mappings (rows : List String) : Array Mapping :=
  (rows.flatMap fun row => (pieces ' ' row.toList).map mapping).toArray

/-- The image of a code point: inside a span the image moves along with the code point. -/
def image? (table : Array Mapping) (n : Nat) : Option (List Nat) :=
  (table.find? fun m => m.source.holds n).map fun m => m.image.map (· + (n - m.source.first))

end ModuleDocs.CodeTable
