import ModuleDocs.Text.CodeTable
import ModuleDocs.Text.NameTable

/-!
# Names of characters

A name or an alias of a character stands for its code point, in letters of either case. The names of ideographs
and syllables follow from their code points; those of unified ideographs and of syllables are written in
capitals. The names are those of Unicode 14.0.
-/

namespace ModuleDocs.CharacterName

/-- The signs of the table, in their order. The first `shortSigns` stand alone; every other one starts a sign of
two characters. -/
def signs : List Char :=
  "ABCDEFGHIJKLMNOPQRSTUVWXYZabcdefghijklmnopqrstuvwxyz0123456789!$%&()*+,./:;<=>?[]^_|~".toList

def shortSigns : Nat := 60

def numbers : List Char → List Nat
  | [] => []
  | c :: cs =>
    let n := signs.idxOf c
    if n < shortSigns then n :: numbers cs
    else
      match cs with
      | [] => []
      | d :: ds => (shortSigns + (n - shortSigns) * signs.length + signs.idxOf d) :: numbers ds

/-- What a sign stands for. -/
inductive Fragment where
  /-- The name goes on with these characters. -/
  | chars (cs : List Char)
  /-- A name starts, with this many characters of the one before it. -/
  | keep (n : Nat)
  deriving Repr, DecidableEq

namespace Fragment

def ofPiece : List Char → Fragment
  | '+' :: ds => keep (ds.foldl (fun n d => 10 * n + (d.toNat - 48)) 0)
  | cs => chars cs

end Fragment

/-- The fragments of the table, by the numbers of their signs. -/
def fragments : Array Fragment :=
  (fragmentRows.flatMap fun row => (CodeTable.pieces '|' row.toList).map Fragment.ofPiece).toArray

/-- The names that the fragments spell, each started by how much it keeps of the name before. -/
def spell (name : List Char) : List Fragment → List (List Char)
  | [] => [name]
  | .chars cs :: fs => spell (name ++ cs) fs
  | .keep n :: fs => name :: spell (name.take n) fs

def names : List (List Char) :=
  (spell [] ((nameRows.flatMap fun row => numbers row.toList).filterMap fun n => fragments[n]?)).tail

def points : List Nat :=
  (CodeTable.spans pointRows).toList.flatMap fun s => List.range' s.first (s.last + 1 - s.first)

def listed? (name : List Char) : Option Nat :=
  ((names.zip points).find? fun e => e.1 == name).map Prod.snd

/-- A family of characters named by their code point: the words in front of it, and the spans it covers. -/
structure Family where
  words : String
  /-- A zero may stand in front of a code point of four digits. -/
  padded : Bool
  spans : List CodeTable.Span
  deriving Repr

namespace Family

def point? (f : Family) (name : List Char) : Option Nat :=
  let digits := name.drop f.words.length
  let n := CodeTable.hexNumber digits
  let capital : Char → Bool := fun c => c.isDigit || ('A' ≤ c && c ≤ 'F')
  let width := if n < 0x10000 then 4 else 5
  if f.words.toList.isPrefixOf name && digits.all capital
      && (digits.length == width || f.padded && digits.length == 5) && f.spans.any (·.holds n) then
    some n
  else none

end Family

def unified : Family :=
  ⟨"CJK UNIFIED IDEOGRAPH-", true,
    [⟨0x3400, 0x4DBF⟩, ⟨0x4E00, 0x9FFF⟩, ⟨0x20000, 0x2A6DF⟩, ⟨0x2A700, 0x2B738⟩, ⟨0x2B740, 0x2B81D⟩,
      ⟨0x2B820, 0x2CEA1⟩, ⟨0x2CEB0, 0x2EBE0⟩, ⟨0x30000, 0x3134A⟩]⟩

def families : List Family :=
  [⟨"CJK COMPATIBILITY IDEOGRAPH-", false, [⟨0xF900, 0xFA6D⟩, ⟨0xFA70, 0xFAD9⟩, ⟨0x2F800, 0x2FA1D⟩]⟩,
    ⟨"KHITAN SMALL SCRIPT CHARACTER-", false, [⟨0x18B00, 0x18CD5⟩]⟩,
    ⟨"NUSHU CHARACTER-", false, [⟨0x1B170, 0x1B2FB⟩]⟩]

/-- The initial consonants, vowels and final consonants of syllables, in their order. -/
def syllableParts : List (List String) :=
  [["G", "GG", "N", "D", "DD", "R", "M", "B", "BB", "S", "SS", "", "J", "JJ", "C", "K", "T", "P", "H"],
    ["A", "AE", "YA", "YAE", "EO", "E", "YEO", "YE", "O", "WA", "WAE", "OE", "YO", "U", "WEO", "WE", "WI", "YU",
      "EU", "YI", "I"],
    ["", "G", "GG", "GS", "N", "NJ", "NH", "D", "L", "LG", "LM", "LB", "LS", "LT", "LP", "LH", "M", "B", "BS",
      "S", "SS", "NG", "J", "C", "K", "T", "P", "H"]]

def longestPart? (parts : List String) (text : List Char) : Option String :=
  (parts.filter fun p => p.toList.isPrefixOf text).foldl
    (fun best p => if (best.map String.length).getD 0 ≤ p.length then some p else best) none

/-- The number of a syllable among all syllables: the parts are its digits. -/
def syllable? (number : Nat) : List (List String) → List Char → Option Nat
  | [], [] => some number
  | [], _ :: _ => none
  | parts :: rest, text => do
    let part ← longestPart? parts text
    syllable? (number * parts.length + parts.idxOf part) rest (text.drop part.length)

def firstSyllable : Nat := 0xAC00

def syllableWords : String := "HANGUL SYLLABLE "

def point? (name : List Char) : Option Nat :=
  if syllableWords.toList.isPrefixOf name then
    (syllable? 0 syllableParts (name.drop syllableWords.length)).map (firstSyllable + ·)
  else if unified.words.toList.isPrefixOf name then unified.point? name
  else
    let capitals := name.map Char.toUpper
    (families.findSome? (·.point? capitals)).or (listed? capitals)

end ModuleDocs.CharacterName
