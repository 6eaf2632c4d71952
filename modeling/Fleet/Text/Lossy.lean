/-!
# Reading bytes that may not be UTF-8

Bytes are read as UTF-8, and each longest piece that begins a character without completing it, or
that cannot begin one, reads as the replacement character.
-/
namespace Fleet.Text

def replacement : Char := Char.ofNat 0xFFFD

/-- The number of bytes a character with this first byte goes on for, and the range of its second
byte. -/
def continuation (first : Nat) : Option (Nat × Nat × Nat) :=
  if 0xC2 ≤ first && first ≤ 0xDF then some (1, 0x80, 0xBF)
  else if first = 0xE0 then some (2, 0xA0, 0xBF)
  else if first = 0xED then some (2, 0x80, 0x9F)
  else if 0xE1 ≤ first && first ≤ 0xEF then some (2, 0x80, 0xBF)
  else if first = 0xF0 then some (3, 0x90, 0xBF)
  else if 0xF1 ≤ first && first ≤ 0xF3 then some (3, 0x80, 0xBF)
  else if first = 0xF4 then some (3, 0x80, 0x8F)
  else none

/-- What bytes are taken apart into: characters, and pieces that are none. -/
inductive Piece where
  | char (c : Char)
  | broken (bytes : List UInt8)

/-- Bytes of a character that are still to come: their number, the value so far, and the range of
the next one; and the bytes that have come. -/
structure Pending where
  count : Nat
  value : Nat
  low : Nat
  high : Nat
  bytes : List UInt8

def leadingBits (first count : Nat) : Nat := first % Nat.pow 2 (6 - count)

/-- Decodes from a byte that begins a character, given what came before it. -/
def beginChar (byte : UInt8) : List Piece × Option Pending :=
  if byte.toNat < 0x80 then ([.char (Char.ofNat byte.toNat)], none)
  else
    match continuation byte.toNat with
    | some (count, low, high) =>
      ([], some ⟨count, leadingBits byte.toNat count, low, high, [byte]⟩)
    | none => ([.broken [byte]], none)

def piecesFrom (pending : Option Pending) : List UInt8 → List Piece
  | [] => pending.toList.map fun p => .broken p.bytes
  | byte :: rest =>
    match pending with
    | none =>
      let (pieces, pending) := beginChar byte
      pieces ++ piecesFrom pending rest
    | some p =>
      if p.low ≤ byte.toNat && byte.toNat ≤ p.high then
        let value := p.value * 64 + byte.toNat % 64
        if p.count ≤ 1 then .char (Char.ofNat value) :: piecesFrom none rest
        else piecesFrom (some ⟨p.count - 1, value, 0x80, 0xBF, p.bytes ++ [byte]⟩) rest
      else
        let (pieces, pending) := beginChar byte
        .broken p.bytes :: pieces ++ piecesFrom pending rest

def pieces (bytes : List UInt8) : List Piece := piecesFrom none bytes

def Piece.shown : Piece → Char
  | char c => c
  | broken _ => replacement

def lossy (bytes : List UInt8) : String := String.ofList ((pieces bytes).map Piece.shown)

end Fleet.Text
