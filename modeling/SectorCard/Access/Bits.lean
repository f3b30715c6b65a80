import SectorCard.Access.Policy
import SectorCard.Bytes

/-!
# Access bits

The access conditions of the four block positions of a sector are stored in three bytes.  The bits of one
kind form a nibble, bit `i` for position `i`, and each nibble is stored twice, once plain and once inverted:

```text
byte 0:   c1 |  c2
byte 1:   c3 | !c1
byte 2:  !c2 | !c3
```

A fourth byte is free for the user.  Writing bits that contradict their inverted copy locks a sector for
ever, which is why they are checked before anything is sent.

Main statement: `AccessBits.decode_of_make`, the bits made for a policy decode to it.
-/

namespace SectorCard

/-- The four access bytes of a sector trailer.  The last one is the user's, and is not checked. -/
structure AccessBits where
  b0 : UInt8
  b1 : UInt8
  b2 : UInt8
  user : UInt8
  deriving DecidableEq, Repr

/-- The conditions of the four block positions of a sector, the last of which is the trailer.  In a
sector of 16 blocks each of the first three positions stands for five blocks. -/
structure AccessConditions where
  data0 : Condition
  data1 : Condition
  data2 : Condition
  trailer : Condition
  deriving DecidableEq, Repr

namespace AccessConditions

def toList (c : AccessConditions) : List Condition := [c.data0, c.data1, c.data2, c.trailer]

def at? (c : AccessConditions) (position : Nat) : Option Condition := c.toList[position]?

/-- Conditions that give all data positions the same condition. -/
def uniform (data trailer : Condition) : AccessConditions := ⟨data, data, data, trailer⟩

def reduce (c : AccessConditions) : AccessConditions :=
  ⟨c.data0.reduce, c.data1.reduce, c.data2.reduce, c.trailer.reduce⟩

/-- The policy behind the data positions, if they all share one of the supported conditions. -/
def policy? (c : AccessConditions) : Option AccessPolicy :=
  if c.data1 = c.data0 ∧ c.data2 = c.data0 then AccessPolicy.ofCondition? c.data0 else none

theorem policy?_uniform (data trailer : Condition) : (uniform data trailer).policy? = AccessPolicy.ofCondition? data :=
  if_pos ⟨rfl, rfl⟩

end AccessConditions

namespace AccessBits

/-! ## Bytes -/

def toBytes (bits : AccessBits) : Bytes := [bits.b0, bits.b1, bits.b2, bits.user]

/-- Access bits from bytes, which must be four; they are not checked. -/
def ofBytes : Bytes → Except CardError AccessBits
  | [b0, b1, b2, user] => .ok ⟨b0, b1, b2, user⟩
  | _ => .error .size

@[simp] theorem ofBytes_toBytes (bits : AccessBits) : ofBytes bits.toBytes = .ok bits := rfl

theorem ofBytes_eq_error {bytes : Bytes} {e : CardError} (h : ofBytes bytes = .error e) : e = .size := by
  unfold ofBytes at h
  split at h
  · cases h
  · cases h
    rfl

@[simp] theorem length_toBytes (bits : AccessBits) : bits.toBytes.length = 4 := rfl

def describe (bits : AccessBits) : String :=
  "AccessBits([" ++ ", ".intercalate (bits.toBytes.map fun b => toString b.toNat) ++ "])"

/-! ## Nibbles -/

def low (byte : UInt8) : UInt8 := byte &&& (0x0f : UInt8)

def high (byte : UInt8) : UInt8 := byte >>> (4 : UInt8)

def join (hi lo : UInt8) : UInt8 := (hi <<< (4 : UInt8)) ||| lo

def invert (nibble : UInt8) : UInt8 := low (~~~ nibble)

def place (byte i : UInt8) : UInt8 := (byte &&& (1 : UInt8)) <<< i

/-- The nibble whose bit `i` is the lowest bit of the `i`-th argument. -/
def gather (p0 p1 p2 p3 : UInt8) : UInt8 :=
  place p0 0 ||| place p1 1 ||| place p2 2 ||| place p3 3

def bitAt (byte i : UInt8) : UInt8 := (byte >>> i) &&& (1 : UInt8)

/-! ## Encoding and decoding -/

/-- Packs conditions into access bytes; the user byte is zero. -/
def encode (c : AccessConditions) : AccessBits :=
  let c1 := gather c.data0.c1 c.data1.c1 c.data2.c1 c.trailer.c1
  let c2 := gather c.data0.c2 c.data1.c2 c.data2.c2 c.trailer.c2
  let c3 := gather c.data0.c3 c.data1.c3 c.data2.c3 c.trailer.c3
  { b0 := join c1 c2
    b1 := join c3 (invert c1)
    b2 := join (invert c2) (invert c3)
    user := 0 }

/-- The access bits of a sector whose data blocks follow a policy. -/
def make (policy : AccessPolicy) : Except CardError AccessBits :=
  match policy.condition with
  | .ok data => .ok (encode (.uniform data .trailer))
  | .error e => .error e

def isValid (bits : AccessBits) : Bool :=
  low bits.b1 == invert (high bits.b0)
    && high bits.b2 == invert (low bits.b0)
    && low bits.b2 == invert (high bits.b1)

/-- Refuses bits that contradict their inverted copy. -/
def validate (bits : AccessBits) : Except CardError Unit :=
  if bits.isValid then .ok () else .error .invalidAccessBits

def conditionAt (bits : AccessBits) (i : UInt8) : Condition :=
  ⟨bitAt bits.b0 (4 + i), bitAt bits.b0 i, bitAt bits.b1 (4 + i)⟩

/-- The conditions that bits hold, whether or not they are valid. -/
def conditions (bits : AccessBits) : AccessConditions :=
  ⟨bits.conditionAt 0, bits.conditionAt 1, bits.conditionAt 2, bits.conditionAt 3⟩

/-- Unpacks bits that agree with their inverted copy. -/
def decode (bits : AccessBits) : Except CardError AccessConditions :=
  if bits.isValid then .ok bits.conditions else .error .invalidAccessBits

theorem condition_of_make {policy : AccessPolicy} {bits : AccessBits} (h : make policy = .ok bits) :
    ∃ data, policy.condition = .ok data ∧ bits = encode (.uniform data .trailer) := by
  unfold make at h
  split at h
  · rename_i data hdata
    cases h
    exact ⟨data, hdata, rfl⟩
  · cases h

/-- Bits that were made for a policy decode to conditions from which the policy can be told, and which leave the
trailer to key B. -/
theorem decode_of_make {policy : AccessPolicy} {bits : AccessBits} (h : make policy = .ok bits) :
    ∃ conditions, bits.decode = .ok conditions ∧ conditions.policy? = some policy ∧ conditions.trailer = .trailer := by
  rcases condition_of_make h with ⟨data, hdata, rfl⟩
  have hall : ∀ entry ∈ AccessPolicy.supported, (encode (.uniform entry.2 .trailer)).isValid = true ∧
      (encode (.uniform entry.2 .trailer)).conditions = .uniform entry.2 .trailer := by
    decide
  rcases hall (policy, data) (AccessPolicy.mem_supported hdata) with ⟨hvalid, hconditions⟩
  refine ⟨.uniform data .trailer, ?_, ?_, rfl⟩
  · rw [decode, if_pos hvalid, hconditions]
  · rw [AccessConditions.policy?_uniform]
    exact AccessPolicy.ofCondition?_eq_some_iff.2 hdata

end AccessBits
end SectorCard
