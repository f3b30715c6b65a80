import SectorCard.Key.Material

/-!
# Key slots of the reader

A reader keeps loaded keys in numbered slots: one volatile slot, lost when the reader loses power, and a
range of slots that persist.  A key entry is a key together with the slot it is meant for.
-/

namespace SectorCard

/-- Where the reader keeps a loaded key: in the single slot that is lost with the power, or in those that
persist. -/
inductive KeyStore where
  | volatile
  | nonVolatile
  deriving DecidableEq, Repr

namespace KeyStore

instance : Inhabited KeyStore := ⟨.volatile⟩

def volatileSlot : UInt8 := 0x20

def lastNonVolatileSlot : UInt8 := 0x1f

def name : KeyStore → String
  | .volatile => "Volatile"
  | .nonVolatile => "NonVolatile"

def code : KeyStore → UInt8
  | .volatile => 0x00
  | .nonVolatile => 0x20

def HasSlot : KeyStore → UInt8 → Prop
  | .volatile, slot => slot = volatileSlot
  | .nonVolatile, slot => slot ≤ lastNonVolatileSlot

instance (store : KeyStore) (slot : UInt8) : Decidable (store.HasSlot slot) := by
  cases store <;> unfold HasSlot <;> infer_instance

/-- Refuses a slot that does not exist in the store. -/
def checkSlot (store : KeyStore) (slot : UInt8) : Except CardError Unit :=
  if store.HasSlot slot then .ok () else .error (.invalidKeySlot slot)

end KeyStore

/-- A key and the reader slot it is meant for. -/
structure KeyEntry where
  key : Key
  store : KeyStore
  slot : UInt8
  deriving DecidableEq

namespace KeyEntry

/-- An entry whose slot exists in its store. -/
def make (key : Key) (store : KeyStore) (slot : UInt8) : Except CardError KeyEntry :=
  if store.HasSlot slot then .ok ⟨key, store, slot⟩ else .error (.invalidKeySlot slot)

def volatile (key : Key) : KeyEntry := ⟨key, .volatile, KeyStore.volatileSlot⟩

def describe (e : KeyEntry) : String :=
  "KeyInfo \x7b key: " ++ e.key.describe ++ ", structure: " ++ e.store.name ++ ", slot: "
    ++ toString e.slot.toNat ++ " \x7d"

theorem make_volatile (key : Key) :
    make key .volatile KeyStore.volatileSlot = .ok (volatile key) := by
  simp [make, KeyStore.HasSlot, volatile]

theorem make_eq_ok_iff {key : Key} {store : KeyStore} {slot : UInt8} {e : KeyEntry} :
    make key store slot = .ok e ↔ store.HasSlot slot ∧ e = ⟨key, store, slot⟩ := by
  unfold make
  split <;> rename_i h <;> simp [h, eq_comm]

end KeyEntry
end SectorCard
