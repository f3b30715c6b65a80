import SectorCard.Coupler.Page
import SectorCard.Geometry
import SectorCard.Trailer

/-!
# The card

A card is a coupler together with what the library knows about the card in front of it: its geometry, the
keys configured for it, the intended policy of each sector, and which sectors are authenticated with which
key.

Main statements: `AuthCache.find?_insert` and `AuthCache.find?_erase` say what the cache records.
-/

namespace SectorCard

/-! ## Authentication cache -/

/-- The key a sector was last authenticated with, and the slot it was in. -/
structure CachedAuth where
  selector : KeySelector
  slot : UInt8
  deriving DecidableEq, Repr

/-- Which sectors are known to be authenticated, and how.  The first entry for a sector counts. -/
structure AuthCache where
  entries : List (UInt8 × CachedAuth)
  deriving DecidableEq, Repr

namespace AuthCache

def empty : AuthCache := ⟨[]⟩

instance : Inhabited AuthCache := ⟨empty⟩

def find? (cache : AuthCache) (sector : UInt8) : Option CachedAuth := cache.entries.lookup sector

def erase (cache : AuthCache) (sector : UInt8) : AuthCache :=
  ⟨cache.entries.filter fun entry => entry.1 != sector⟩

def insert (cache : AuthCache) (sector : UInt8) (auth : CachedAuth) : AuthCache :=
  ⟨(sector, auth) :: (cache.erase sector).entries⟩

@[simp] theorem find?_empty (sector : UInt8) : empty.find? sector = none := rfl

theorem find?_erase (cache : AuthCache) (sector other : UInt8) :
    (cache.erase sector).find? other = if other = sector then none else cache.find? other := by
  obtain ⟨entries⟩ := cache
  simp only [erase, find?]
  induction entries with
  | nil => simp
  | cons entry rest ih => grind

theorem find?_insert (cache : AuthCache) (sector other : UInt8) (auth : CachedAuth) :
    (cache.insert sector auth).find? other = if other = sector then some auth else cache.find? other := by
  have erased := find?_erase cache sector other
  grind [insert, find?]

end AuthCache

/-! ## Key ring -/

structure KeyRing where
  a : Option KeyEntry
  b : Option KeyEntry
  deriving DecidableEq

namespace KeyRing

def empty : KeyRing := ⟨none, none⟩

def find? (ring : KeyRing) : KeySelector → Option KeyEntry
  | .a => ring.a
  | .b => ring.b
  | _ => none

def insert (ring : KeyRing) (selector : KeySelector) (entry : KeyEntry) : KeyRing :=
  match selector with
  | .a => { ring with a := some entry }
  | .b => { ring with b := some entry }
  | _ => ring

theorem find?_insert (ring : KeyRing) {selector : KeySelector} (h : selector.authenticates)
    (entry : KeyEntry) (other : KeySelector) :
    (ring.insert selector entry).find? other =
      if other = selector then some entry else ring.find? other := by
  cases selector <;> cases other <;> first | rfl | cases h

end KeyRing

/-! ## Card -/

/-- A coupler and what is known about the card in front of it: its size, the configured keys, the policy
that is intended for each sector, and the sectors known to be authenticated. -/
structure Card where
  coupler : Coupler
  geometry : Geometry
  keys : KeyRing
  policies : List AccessPolicy
  length_policies : policies.length = geometry.sectorCount
  cache : AuthCache
  deriving DecidableEq

abbrev CardM := Procedure Link Card Failure

namespace Card

/-- A card about which nothing is known but its geometry. -/
def fresh (coupler : Coupler) (geometry : Geometry) : Card where
  coupler := coupler
  geometry := geometry
  keys := .empty
  policies := List.replicate geometry.sectorCount .standard
  length_policies := by simp
  cache := .empty

def setKey (selector : KeySelector) (key : Key) (store : KeyStore) (slot : UInt8) (card : Card) :
    Except CardError Card :=
  if !selector.authenticates then .error (.notAuthenticating selector)
  else match KeyEntry.make key store slot with
    | .error e => .error e
    | .ok entry => .ok { card with keys := card.keys.insert selector entry }

/-- The key configured under a selector, or the error that there is none. -/
def findKey (card : Card) (selector : KeySelector) : Except CardError KeyEntry :=
  match card.keys.find? selector with
  | some entry => .ok entry
  | none => .error (.keyNotConfigured selector)

/-- Sets the intended policy of a sector.  Nothing is sent to the card. -/
def setPolicy (sector : UInt8) (policy : AccessPolicy) (card : Card) : Except CardError Card :=
  if sector.toNat < card.geometry.sectorCount then
    .ok { card with
      policies := card.policies.set sector.toNat policy
      length_policies := by simpa using card.length_policies }
  else .error (.invalidSector sector)

def policy (card : Card) (sector : UInt8) : Except Failure AccessPolicy :=
  if sector.toNat < card.geometry.sectorCount then Checked.item card.policies sector.toNat
  else .error (.error (.invalidSector sector))

inductive Access where
  | read
  | write
  deriving DecidableEq, Repr

/-- The key to use under a policy: for writing, key B before key A; for reading, key A before key B. -/
def preferredKey? (policy : AccessPolicy) : Access → Option KeySelector
  | .write => if policy.bWrites then some .b else if policy.aWrites then some .a else none
  | .read => if policy.aReads then some .a else if policy.bReads then some .b else none

def chooseKey (card : Card) (sector : UInt8) (access : Access) : Except Failure KeySelector :=
  match card.policy sector with
  | .error e => .error e
  | .ok policy =>
    match preferredKey? policy access with
    | some selector => .ok selector
    | none => .error (.error (.noUsableKey sector))

def cachedAuth (card : Card) (sector : UInt8) : Option CachedAuth := card.cache.find? sector

def invalidate (sector : UInt8) (card : Card) : Card := { card with cache := card.cache.erase sector }

end Card
end SectorCard
