import ModuleDocs.Text.Basic

/-!
# Blanks

White space in texts: the code points that are stripped from the ends of a text and that make a line blank.
-/

namespace ModuleDocs

namespace CodePoint

/-- White space: controls and separators that move the position without showing anything. -/
def isBlank (c : CodePoint) : Bool :=
  let n := c.val
  (0x09 ≤ n && n ≤ 0x0D) || (0x1C ≤ n && n ≤ 0x20) || n == 0x85 || n == 0xA0 || n == 0x1680 ||
    (0x2000 ≤ n && n ≤ 0x200A) || n == 0x2028 || n == 0x2029 || n == 0x202F || n == 0x205F || n == 0x3000

def endsLine (c : CodePoint) : Bool :=
  let n := c.val
  (0x0A ≤ n && n ≤ 0x0D) || (0x1C ≤ n && n ≤ 0x1E) || n == 0x85 || n == 0x2028 || n == 0x2029

end CodePoint

namespace Text

def stripLeft (t : Text) : Text := t.dropWhile CodePoint.isBlank

def stripRight (t : Text) : Text := (t.reverse.dropWhile CodePoint.isBlank).reverse

def strip (t : Text) : Text := t.stripLeft.stripRight

/-- The first line of a text; none if the text is empty. -/
def firstLine? (t : Text) : Option Text :=
  if t.isEmpty then none else some (t.takeWhile fun c => !c.endsLine)

def splitOn (sep : CodePoint) : Text → List Text
  | [] => [[]]
  | c :: cs =>
    if c = sep then [] :: splitOn sep cs
    else
      match splitOn sep cs with
      | [] => [[c]]
      | p :: ps => (c :: p) :: ps

end Text

end ModuleDocs
