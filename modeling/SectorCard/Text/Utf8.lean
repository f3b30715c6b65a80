import SectorCard.Bytes

/-!
# Text in bytes of unknown origin

Names of readers come as bytes that need not be text.  `Utf8.pieces` cuts such bytes into characters and broken
stretches; a broken stretch is the longest front part of a character that does not go on as it should, or a
single byte that cannot start one.  Shown as text, every broken stretch becomes one replacement character.

The bytes are read one at a time.  What is known in the middle of a character is how many bytes are still owed
and between which bounds the next one has to lie.
-/

namespace SectorCard.Utf8

/-- A stretch of bytes: a character, or bytes that are part of none. -/
inductive Piece where
  | char (c : Char)
  | broken (bytes : Bytes)
  deriving DecidableEq, Repr

/-- What is known in the middle of a character: the bytes read so far and the value of their bits, how
many bytes are owed, and the bounds of the next one. -/
structure Pending where
  bytes : Bytes
  owed : Nat
  low : Nat
  high : Nat
  value : Nat
  deriving DecidableEq, Repr

/-- What a byte is when no character has begun. -/
def start (b : UInt8) : Piece ⊕ Pending :=
  let n := b.toNat
  if n < 0x80 then .inl (.char (Char.ofNat n))
  else if 0xc2 ≤ n ∧ n ≤ 0xdf then .inr ⟨[b], 1, 0x80, 0xbf, n - 0xc0⟩
  else if n = 0xe0 then .inr ⟨[b], 2, 0xa0, 0xbf, n - 0xe0⟩
  else if n = 0xed then .inr ⟨[b], 2, 0x80, 0x9f, n - 0xe0⟩
  else if 0xe1 ≤ n ∧ n ≤ 0xef then .inr ⟨[b], 2, 0x80, 0xbf, n - 0xe0⟩
  else if n = 0xf0 then .inr ⟨[b], 3, 0x90, 0xbf, n - 0xf0⟩
  else if 0xf1 ≤ n ∧ n ≤ 0xf3 then .inr ⟨[b], 3, 0x80, 0xbf, n - 0xf0⟩
  else if n = 0xf4 then .inr ⟨[b], 3, 0x80, 0x8f, n - 0xf0⟩
  else .inl (.broken [b])

/-- The middle of a character after one more byte that fits. -/
def Pending.push (p : Pending) (b : UInt8) : Pending :=
  ⟨p.bytes ++ [b], p.owed - 1, 0x80, 0xbf, p.value * 64 + (b.toNat - 0x80)⟩

/-- Cuts bytes into pieces, from the middle of a character or from between characters. -/
def piecesFrom : Option Pending → Bytes → List Piece
  | none, [] => []
  | some p, [] => [.broken p.bytes]
  | none, b :: rest =>
    match start b with
    | .inl piece => piece :: piecesFrom none rest
    | .inr p => piecesFrom (some p) rest
  | some p, b :: rest =>
    if p.low ≤ b.toNat ∧ b.toNat ≤ p.high then
      if p.owed = 1 then .char (Char.ofNat (p.push b).value) :: piecesFrom none rest
      else piecesFrom (some (p.push b)) rest
    else
      .broken p.bytes ::
        match start b with
        | .inl piece => piece :: piecesFrom none rest
        | .inr q => piecesFrom (some q) rest

def pieces (data : Bytes) : List Piece := piecesFrom none data

def replacement : Char := '\ufffd'

def Piece.shown : Piece → Char
  | .char c => c
  | .broken _ => replacement

/-- Bytes shown as text. -/
def lossy (data : Bytes) : String := String.ofList ((pieces data).map Piece.shown)

def encode (text : String) : Bytes := text.toUTF8.toList

end SectorCard.Utf8
