/-
UTF-8 as bytes and back.

- `encode`: the bytes of a text.
- `pieces`: what a byte sequence decodes to, one piece at a time. A piece is a character, or a maximal run of bytes
  that begins a character and is cut short (or a single byte that begins none).
- `decode?`: the text, when every piece is a character.
- `lossy`: the text with U+FFFD in place of each broken piece. Valid input comes back unchanged.

Overlong forms, surrogates and values above U+10FFFF are broken at their second byte, because no valid character
starts with those two bytes.
-/

namespace BlockProbe.Text

def encode (text : String) : List UInt8 :=
  text.toList.flatMap String.utf8EncodeChar

/-- one decoded piece: a character, or bytes that are none -/
inductive Piece where
  | scalar (c : Char)
  | broken
deriving DecidableEq, Repr

/-- the character a broken piece is shown as -/
def replacement : Char := Char.ofNat 0xFFFD

def Piece.shown : Piece → Char
  | .scalar c => c
  | .broken => replacement

def Piece.char? : Piece → Option Char
  | .scalar c => some c
  | .broken => none

/-- a byte of the form 10xxxxxx -/
def isContinuation (b : UInt8) : Bool := 0x80 ≤ b && b ≤ 0xBF

/-- the six payload bits of a continuation byte -/
def low (b : UInt8) : Nat := b.toNat % 64

/-- may `second` follow the lead byte of a three-byte character? -/
def secondOfThree (lead second : UInt8) : Bool :=
  if lead == 0xE0 then 0xA0 ≤ second && second ≤ 0xBF
  else if lead == 0xED then 0x80 ≤ second && second ≤ 0x9F
  else isContinuation second

/-- may `second` follow the lead byte of a four-byte character? -/
def secondOfFour (lead second : UInt8) : Bool :=
  if lead == 0xF0 then 0x90 ≤ second && second ≤ 0xBF
  else if lead == 0xF4 then 0x80 ≤ second && second ≤ 0x8F
  else isContinuation second

/-- the piece that begins with `lead`, and how many of the bytes after it belong to it -/
def pieceAt (lead : UInt8) (rest : List UInt8) : Piece × Nat :=
  if lead < 0x80 then (.scalar (Char.ofNat lead.toNat), 0)
  else if 0xC2 ≤ lead && lead ≤ 0xDF then
    match rest with
    | b :: _ =>
      if isContinuation b then (.scalar (Char.ofNat (lead.toNat % 32 * 64 + low b)), 1) else (.broken, 0)
    | [] => (.broken, 0)
  else if 0xE0 ≤ lead && lead ≤ 0xEF then
    match rest with
    | b :: more =>
      if secondOfThree lead b then
        match more with
        | c :: _ =>
          if isContinuation c then
            (.scalar (Char.ofNat (lead.toNat % 16 * 4096 + low b * 64 + low c)), 2)
          else (.broken, 1)
        | [] => (.broken, 1)
      else (.broken, 0)
    | [] => (.broken, 0)
  else if 0xF0 ≤ lead && lead ≤ 0xF4 then
    match rest with
    | b :: more =>
      if secondOfFour lead b then
        match more with
        | c :: most =>
          if isContinuation c then
            match most with
            | d :: _ =>
              if isContinuation d then
                (.scalar (Char.ofNat (lead.toNat % 8 * 262144 + low b * 4096 + low c * 64 + low d)), 3)
              else (.broken, 2)
            | [] => (.broken, 2)
          else (.broken, 1)
        | [] => (.broken, 1)
      else (.broken, 0)
    | [] => (.broken, 0)
  else (.broken, 0)

/-- decode, with `skip` bytes still belonging to the piece before and the pieces so far in reverse -/
def piecesFrom (skip : Nat) (sofar : List Piece) : List UInt8 → List Piece
  | [] => sofar.reverse
  | lead :: rest =>
    match skip with
    | more + 1 => piecesFrom more sofar rest
    | 0 =>
      let (piece, taken) := pieceAt lead rest
      piecesFrom taken (piece :: sofar) rest

def pieces (bytes : List UInt8) : List Piece := piecesFrom 0 [] bytes

/-- the text of a byte sequence, if it is valid UTF-8 -/
def decode? (bytes : List UInt8) : Option String :=
  ((pieces bytes).mapM Piece.char?).map String.ofList

/-- the text of any byte sequence, broken pieces replaced -/
def lossy (bytes : List UInt8) : String :=
  String.ofList ((pieces bytes).map Piece.shown)

end BlockProbe.Text
