import BlockApp.Bytes.Basic
import BlockApp.Text.Hex

/-!
# UTF-8

Decoding cuts a byte string into *pieces*: characters, and bad sequences between them. A bad sequence
is as long as a character could still be read: an impossible first byte alone, or a first byte and the
continuation bytes before the byte that cannot continue it.

* `scan` makes the pieces. It is a recursion on the bytes with the character begun so far as state.
* `decode` refuses a byte string with a bad sequence and tells where the first one is.
* `decodeLossy` puts U+FFFD for every bad sequence.
-/

namespace BlockApp.Utf8

/-- The bytes of a text. -/
def encode (s : List Char) : Bytes := s.flatMap String.utf8EncodeChar

@[simp] theorem encode_nil : encode [] = [] := rfl

@[simp] theorem encode_cons (c : Char) (s : List Char) :
    encode (c :: s) = String.utf8EncodeChar c ++ encode s := rfl

@[simp] theorem encode_append (s t : List Char) : encode (s ++ t) = encode s ++ encode t := by
  simp [encode]

/-- Why a sequence of bytes is no character. -/
inductive Reason where
  | startByte
  | continuationByte
  | endOfData
  deriving Repr, DecidableEq

/-- The wording of a reason. -/
def Reason.message : Reason → String
  | .startByte => "invalid start byte"
  | .continuationByte => "invalid continuation byte"
  | .endOfData => "unexpected end of data"

/-- A character or a bad sequence. -/
inductive Piece where
  | char (c : Char)
  | bad (bytes : Bytes) (reason : Reason)
  deriving Repr, DecidableEq

/-- The bytes a piece was read from. -/
def Piece.bytes : Piece → Bytes
  | .char c => String.utf8EncodeChar c
  | .bad bytes _ => bytes

/-- A character that is begun: its bytes so far, the bits they carry, the number of bytes still owed,
and the least and greatest byte that may come next. -/
structure Begun where
  taken : Bytes
  bits : Nat
  owed : Nat
  low : UInt8
  high : UInt8
  deriving Repr, DecidableEq

/-- Reads a first byte: a whole character, a character begun, or a bad sequence. The bounds on the
second byte exclude overlong forms, surrogates and numbers above U+10FFFF. -/
def start (b : UInt8) : List Piece × Option Begun :=
  if b < 0x80 then ([.char (Char.ofNat b.toNat)], none)
  else if b < 0xC2 then ([.bad [b] .startByte], none)
  else if b < 0xE0 then ([], some ⟨[b], b.toNat - 0xC0, 1, 0x80, 0xBF⟩)
  else if b = 0xE0 then ([], some ⟨[b], 0, 2, 0xA0, 0xBF⟩)
  else if b = 0xED then ([], some ⟨[b], 13, 2, 0x80, 0x9F⟩)
  else if b < 0xF0 then ([], some ⟨[b], b.toNat - 0xE0, 2, 0x80, 0xBF⟩)
  else if b = 0xF0 then ([], some ⟨[b], 0, 3, 0x90, 0xBF⟩)
  else if b < 0xF4 then ([], some ⟨[b], b.toNat - 0xF0, 3, 0x80, 0xBF⟩)
  else if b = 0xF4 then ([], some ⟨[b], 4, 3, 0x80, 0x8F⟩)
  else ([.bad [b] .startByte], none)

/-- The pieces of the bytes that follow a character begun, or of bytes between characters. -/
def scanFrom : Option Begun → Bytes → List Piece
  | none, [] => []
  | some begun, [] => [.bad begun.taken .endOfData]
  | none, b :: rest => (start b).1 ++ scanFrom (start b).2 rest
  | some begun, b :: rest =>
    if begun.low ≤ b ∧ b ≤ begun.high then
      let bits := 64 * begun.bits + (b.toNat - 0x80)
      if begun.owed = 1 then .char (Char.ofNat bits) :: scanFrom none rest
      else scanFrom (some ⟨begun.taken ++ [b], bits, begun.owed - 1, 0x80, 0xBF⟩) rest
    else .bad begun.taken .continuationByte :: ((start b).1 ++ scanFrom (start b).2 rest)

/-- The pieces of a byte string. -/
def scan (bytes : Bytes) : List Piece := scanFrom none bytes

/-- The first bad sequence of a byte string. -/
structure Fault where
  position : Nat
  bytes : Bytes
  reason : Reason
  deriving Repr, DecidableEq

/-- What is reported of a byte string that is not UTF-8. -/
def Fault.message (f : Fault) : String :=
  let place :=
    match f.bytes with
    | [b] => s!"byte 0x{String.ofList (Text.fixedHex Text.hexLower 2 b.toNat)} in position {f.position}"
    | _ => s!"bytes in position {f.position}-{f.position + f.bytes.length - 1}"
  s!"'utf-8' codec can't decode {place}: {f.reason.message}"

/-- The text of pieces that start at a position, or the first bad one among them. -/
def readPieces (position : Nat) : List Piece → Except Fault (List Char)
  | [] => .ok []
  | .char c :: rest => return c :: (← readPieces (position + c.utf8Size) rest)
  | .bad bytes reason :: _ => .error ⟨position, bytes, reason⟩

/-- The text of a byte string. -/
def decode (bytes : Bytes) : Except Fault (List Char) := readPieces 0 (scan bytes)

/-- The character of a piece, U+FFFD for a bad sequence. -/
def Piece.shown : Piece → Char
  | .char c => c
  | .bad _ _ => '\uFFFD'

/-- The text of a byte string with U+FFFD for every bad sequence. -/
def decodeLossy (bytes : Bytes) : List Char := (scan bytes).map Piece.shown

/-- Text of ASCII bytes, with U+FFFD for any other byte. -/
def decodeAscii (bytes : Bytes) : List Char :=
  bytes.map fun b => if b < 0x80 then Char.ofNat b.toNat else '\uFFFD'

end BlockApp.Utf8
