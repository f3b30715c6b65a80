import SectorCard.CardError
import SectorCard.Bytes

/-!
# Keys

A key is six bytes.  It is never shown: the text of a key is the same for all keys.
-/

namespace SectorCard

def keySize : Nat := 6

structure Key where
  bytes : Bytes
  length_bytes : bytes.length = keySize
  deriving DecidableEq

namespace Key

/-- The key that cards are delivered with: all bits set. -/
def transport : Key := ⟨List.replicate 6 0xff, rfl⟩

instance : Inhabited Key := ⟨transport⟩

def ofBytes (bytes : Bytes) : Except CardError Key :=
  if h : bytes.length = keySize then .ok ⟨bytes, h⟩ else .error .size

/-- Reads a key from twelve hexadecimal digits of either case; anything else has the wrong size. -/
def parse (text : String) : Except CardError Key :=
  match Hex.decode text with
  | .ok bytes => ofBytes bytes
  | .error _ => .error .size

def describe (_ : Key) : String := "MifareKey(..)"

@[simp] theorem ofBytes_bytes (k : Key) : ofBytes k.bytes = .ok k := by
  simp [ofBytes, k.length_bytes]

theorem ofBytes_eq_ok_iff {bytes : Bytes} {k : Key} : ofBytes bytes = .ok k ↔ k.bytes = bytes := by
  constructor
  · intro h
    unfold ofBytes at h
    split at h
    · cases h; rfl
    · cases h
  · rintro rfl
    exact ofBytes_bytes k

theorem ofBytes_eq_error {bytes : Bytes} {e : CardError} (h : ofBytes bytes = .error e) : e = .size := by
  unfold ofBytes at h
  split at h
  · cases h
  · cases h
    rfl

end Key
end SectorCard
