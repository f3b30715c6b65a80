import SectorCard.Cipher

/-!
# Ciphers for trials

Simple ciphers that combine every byte with a one-byte key, together with variants that change the length,
fail, or bind additional data by a one-byte tag.
-/

namespace SectorCard.Simulation

def xor (key : UInt8) (data : Bytes) : Bytes := data.map (· ^^^ key)

/-- The plain cipher and its variants: `pad8` fills the data up to a multiple of eight with zeros,
`short` loses the last byte when it decrypts, and `tagged` binds additional data. -/
inductive CipherKind where
  | xor
  | pad8
  | short
  | noEncrypt
  | noDecrypt
  | tagged
  deriving DecidableEq, Repr

namespace CipherKind

/-- The tag that stands for additional data. -/
def tag (additional : Bytes) : UInt8 := additional.foldl (· ^^^ ·) 0

/-- The cipher that binds additional data by a tag behind the data. -/
def taggedCipher (key : UInt8) : BoundCipher where
  encrypt data additional := .ok (Simulation.xor key data ++ [tag additional])
  decrypt data additional :=
    match data.reverse with
    | last :: front =>
      if last = tag additional then .ok (Simulation.xor key front.reverse) else .error .cipher
    | [] => .error .cipher

def cipher (kind : CipherKind) (key : UInt8) : PageCipher where
  encrypt data :=
    match kind with
    | .pad8 => .ok (Simulation.xor key (Bytes.fit (8 * Bytes.pieceCount 8 data.length) data))
    | .noEncrypt => .error .cipher
    | _ => .ok (Simulation.xor key data)
  decrypt data :=
    match kind with
    | .short => .ok (Simulation.xor key data).dropLast
    | .noDecrypt => .error .cipher
    | _ => .ok (Simulation.xor key data)
  bound := if kind = .tagged then some (taggedCipher key) else none

end CipherKind
end SectorCard.Simulation
