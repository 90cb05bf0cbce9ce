import ModuleDocs.Text.Basic
import ModuleDocs.Text.Quoted

/-!
# UTF-8

Texts as bytes. A text with a surrogate has no encoding; bytes that are no encoding are refused at the
first place where they go wrong. File names keep undecodable bytes as surrogates (`Text.ofFileName`).
-/

namespace ModuleDocs

/-- A run of surrogates in a text. -/
structure EncodeFault where
  /-- The position of the first surrogate. -/
  start : Nat
  /-- The number of surrogates in the run. -/
  count : Nat
  /-- The first surrogate. -/
  first : CodePoint
  deriving Repr, DecidableEq

namespace EncodeFault

def message (f : EncodeFault) : String :=
  "'utf-8' codec can't encode character" ++
    (if f.count ≤ 1 then
      " '" ++ String.ofList (Quoted.numeric f.first.val) ++ "' in position " ++ toString f.start
    else
      "s in position " ++ toString f.start ++ "-" ++ toString (f.start + f.count - 1)) ++
    ": surrogates not allowed"

end EncodeFault

/-- Why a text is no name of a file. -/
inductive NameFault where
  /-- It has surrogates that stand for no bytes. -/
  | unencodable (f : EncodeFault)
  /-- It has a null character. -/
  | nullCharacter
  deriving Repr, DecidableEq

namespace NameFault

def message : NameFault → String
  | unencodable f => f.message
  | nullCharacter => "embedded null byte"

end NameFault

/-- Why bytes are not well-formed. -/
inductive DecodeReason where
  | invalidStart
  | invalidContinuation
  | unexpectedEnd
  deriving Repr, DecidableEq

namespace DecodeReason

def message : DecodeReason → String
  | invalidStart => "invalid start byte"
  | invalidContinuation => "invalid continuation byte"
  | unexpectedEnd => "unexpected end of data"

end DecodeReason

/-- Bytes that are not well-formed. -/
structure DecodeFault where
  /-- The position of the first bad byte. -/
  start : Nat
  /-- The number of bad bytes. -/
  count : Nat
  /-- The first bad byte. -/
  first : UInt8
  reason : DecodeReason
  deriving Repr, DecidableEq

namespace DecodeFault

def message (f : DecodeFault) : String :=
  "'utf-8' codec can't decode byte" ++
    (if f.count ≤ 1 then
      " 0x" ++ String.ofList (Quoted.hex 2 f.first.toNat) ++ " in position " ++ toString f.start
    else
      "s in position " ++ toString f.start ++ "-" ++ toString (f.start + f.count - 1)) ++
    ": " ++ f.reason.message

end DecodeFault

namespace Utf8

def byte (n : Nat) : UInt8 := n.toUInt8

def encodePoint (n : Nat) : List UInt8 :=
  if n < 0x80 then [byte n]
  else if n < 0x800 then [byte (0xC0 + n / 64), byte (0x80 + n % 64)]
  else if n < 0x10000 then
    [byte (0xE0 + n / 4096), byte (0x80 + n / 64 % 64), byte (0x80 + n % 64)]
  else
    [byte (0xF0 + n / 262144), byte (0x80 + n / 4096 % 64), byte (0x80 + n / 64 % 64),
      byte (0x80 + n % 64)]

/-- The bytes of a text, with the position where encoding stands. -/
def encodeFrom (position : Nat) : Text → Except EncodeFault (List UInt8)
  | [] => .ok []
  | c :: cs =>
    if c.isSurrogate then
      .error ⟨position, 1 + (cs.takeWhile CodePoint.isSurrogate).length, c⟩
    else (encodeFrom (position + 1) cs).map (encodePoint c.val ++ ·)

/-- Whether a surrogate stands for a byte of a file name. -/
def isEscapedByte (c : CodePoint) : Bool := 0xDC80 ≤ c.val && c.val ≤ 0xDCFF

/-- The first surrogate of a file name that stands for no byte, with the run it is in. -/
def strayFrom (position : Nat) : Text → Option EncodeFault
  | [] => none
  | c :: cs =>
    if c.isSurrogate && !isEscapedByte c then
      some ⟨position, 1 + (cs.takeWhile CodePoint.isSurrogate).length, c⟩
    else strayFrom (position + 1) cs

def isContinuation (b : UInt8) : Bool := 0x80 ≤ b.toNat && b.toNat < 0xC0

/-- The number of bytes of a character that starts with this byte. -/
def width? (b : UInt8) : Option Nat :=
  let n := b.toNat
  if n < 0x80 then some 1
  else if n < 0xC2 then none
  else if n < 0xE0 then some 2
  else if n < 0xF0 then some 3
  else if n < 0xF5 then some 4
  else none

/-- Whether a byte can stand second after the first one: no overlong forms, surrogates or numbers past the
code space. -/
def isSecond (first second : UInt8) : Bool :=
  let a := first.toNat
  let b := second.toNat
  isContinuation second &&
    !(a == 0xE0 && b < 0xA0) && !(a == 0xED && 0xA0 ≤ b) && !(a == 0xF0 && b < 0x90) &&
      !(a == 0xF4 && 0x90 ≤ b)

/-- One character at the start of some bytes: its code point and width, or how many bytes are bad and
why. -/
def decodePoint (b : UInt8) (rest : List UInt8) : Except (Nat × DecodeReason) (Nat × Nat) :=
  let low := fun (x : UInt8) => x.toNat - 0x80
  match width? b with
  | none => .error (1, .invalidStart)
  | some 1 => .ok (b.toNat, 1)
  | some 2 =>
    match rest with
    | [] => .error (1, .unexpectedEnd)
    | c :: _ =>
      if isSecond b c then .ok ((b.toNat - 0xC0) * 64 + low c, 2) else .error (1, .invalidContinuation)
  | some 3 =>
    match rest with
    | [] => .error (1, .unexpectedEnd)
    | c :: more =>
      if isSecond b c then
        match more with
        | [] => .error (2, .unexpectedEnd)
        | d :: _ =>
          if isContinuation d then .ok (((b.toNat - 0xE0) * 64 + low c) * 64 + low d, 3)
          else .error (2, .invalidContinuation)
      else .error (1, .invalidContinuation)
  | some _ =>
    match rest with
    | [] => .error (1, .unexpectedEnd)
    | c :: more =>
      if isSecond b c then
        match more with
        | [] => .error (2, .unexpectedEnd)
        | d :: more =>
          if isContinuation d then
            match more with
            | [] => .error (3, .unexpectedEnd)
            | e :: _ =>
              if isContinuation e then
                .ok ((((b.toNat - 0xF0) * 64 + low c) * 64 + low d) * 64 + low e, 4)
              else .error (3, .invalidContinuation)
          else .error (2, .invalidContinuation)
      else .error (1, .invalidContinuation)

/-- The text of some bytes, with the position where decoding stands; the first argument bounds the number
of characters. -/
def decodeFrom : Nat → Nat → List UInt8 → Except DecodeFault Text
  | 0, _, _ => .ok []
  | _, _, [] => .ok []
  | fuel + 1, position, b :: rest =>
    match decodePoint b rest with
    | .error (count, reason) => .error ⟨position, count, b, reason⟩
    | .ok (n, width) =>
      (decodeFrom fuel (position + width) (rest.drop (width - 1))).map (CodePoint.ofNat n :: ·)

/-- The text of some bytes, in which every undecodable byte becomes a surrogate. -/
def decodeEscaping : Nat → List UInt8 → Text
  | 0, _ => []
  | _, [] => []
  | fuel + 1, b :: rest =>
    match decodePoint b rest with
    | .error (count, _) =>
      ((b :: rest).take count).map (fun x => CodePoint.ofNat (0xDC00 + x.toNat)) ++
        decodeEscaping fuel (rest.drop (count - 1))
    | .ok (n, width) => CodePoint.ofNat n :: decodeEscaping fuel (rest.drop (width - 1))

end Utf8

namespace Text

/-- The encoding of a text, or the first run of surrogates in it. -/
def toUtf8 (t : Text) : Except EncodeFault (List UInt8) := Utf8.encodeFrom 0 t

/-- The text that some bytes encode, or where they go wrong. -/
def ofUtf8 (bytes : List UInt8) : Except DecodeFault Text := Utf8.decodeFrom bytes.length 0 bytes

def ofFileName (bytes : List UInt8) : Text := Utf8.decodeEscaping bytes.length bytes

def nameFault? (t : Text) : Option NameFault :=
  match Utf8.strayFrom 0 t with
  | some f => some (.unencodable f)
  | none => if t.contains (CodePoint.ofNat 0) then some .nullCharacter else none

/-- The number of bytes of the file name that a text stands for. -/
def fileNameLength (t : Text) : Nat :=
  t.total fun c => if c.isSurrogate then 1 else (Utf8.encodePoint c.val).length

end Text

end ModuleDocs
