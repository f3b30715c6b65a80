import SectorCard.CardError
import SectorCard.Bytes

/-!
# Page ciphers

Data can be encrypted before it is written to pages.  The library has no cipher of its own: a cipher is any
pair of functions, with a second pair if it can bind additional data to what it encrypts.  Which pair is used
is settled once, before the first page.
-/

namespace SectorCard

/-- Encryption that binds additional data, given as the second argument. -/
structure BoundCipher where
  encrypt : Bytes → Bytes → Except CardError Bytes
  decrypt : Bytes → Bytes → Except CardError Bytes

/-- A cipher for pages, with the way to bind additional data, if it has one. -/
structure PageCipher where
  encrypt : Bytes → Except CardError Bytes
  decrypt : Bytes → Except CardError Bytes
  bound : Option BoundCipher

/-- A cipher together with the decision how to use it: to encrypt only, or to bind additional data. -/
inductive CipherMode where
  | plain (cipher : PageCipher)
  | bound (cipher : BoundCipher) (additional : Bytes)

namespace CipherMode

/-- How a cipher is used: additional data is bound if there is any and the cipher can do so. -/
def resolve (cipher : PageCipher) (additional : Option Bytes) : CipherMode :=
  match additional, cipher.bound with
  | some data, some binder => .bound binder data
  | _, _ => .plain cipher

def isBound : CipherMode → Bool
  | .plain _ => false
  | .bound _ _ => true

def encrypt : CipherMode → Bytes → Except CardError Bytes
  | .plain cipher, data => cipher.encrypt data
  | .bound cipher additional, data => cipher.encrypt data additional

def decrypt : CipherMode → Bytes → Except CardError Bytes
  | .plain cipher, data => cipher.decrypt data
  | .bound cipher additional, data => cipher.decrypt data additional

theorem isBound_resolve (cipher : PageCipher) (additional : Option Bytes) :
    (resolve cipher additional).isBound = (additional.isSome && cipher.bound.isSome) := by
  unfold resolve
  cases additional with
  | none => rfl
  | some data => cases cipher.bound <;> rfl

end CipherMode
end SectorCard
