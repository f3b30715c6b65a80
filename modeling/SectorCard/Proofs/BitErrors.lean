import Mathlib.Algebra.Group.Even
import SectorCard.Proofs.TrailerCodec

/-!
# Errors in access bits

The bits that are checked in a trailer are twelve, each stored plain and once more inverted.  If some of the twenty-four
bits are flipped, the check notices it unless every plain bit is flipped together with its inverted copy
(`AccessBits.isValid_flipped`).  So it notices whatever flips an odd number of bits, and whatever flips bits of one byte
alone, since the two copies of a bit never stand in one byte.  What it does not notice reads as other conditions, for
all the positions that are concerned, and for no others (`AccessBits.decode_flipped`).

Flipping bits is adding bytes without carry, and taking nibbles and bits of bytes respects that.
-/

namespace SectorCard

namespace AccessBits

/-! ## Bytes that are added -/

theorem and_xor (a b mask : UInt8) : (a ^^^ b) &&& mask = (a &&& mask) ^^^ (b &&& mask) := by
  apply UInt8.eq_of_toBitVec_eq
  ext i hi
  simp [Bool.and_xor_distrib_right]

theorem low_xor (a b : UInt8) : low (a ^^^ b) = low a ^^^ low b := and_xor a b _

theorem high_xor (a b : UInt8) : high (a ^^^ b) = high a ^^^ high b := UInt8.shiftRight_xor

/-- If bits of a nibble are flipped, the same bits of its inverted copy are. -/
theorem invert_xor (a b : UInt8) : invert (a ^^^ b) = invert a ^^^ low b := by
  calc
    invert (a ^^^ b)
        = low (~~~ a ^^^ b) := by rw [invert, UInt8.not_xor]
    _ = invert a ^^^ low b := low_xor _ _

theorem bitAt_xor (a b i : UInt8) : bitAt (a ^^^ b) i = bitAt a i ^^^ bitAt b i := by
  rw [bitAt, UInt8.shiftRight_xor]
  exact and_xor _ _ _

/-- Of two equal bytes the same bits have to be flipped if they are to stay equal. -/
theorem xor_eq_xor_iff {a b x y : UInt8} (h : a = b) : a ^^^ x = b ^^^ y ↔ x = y := by
  rw [h, UInt8.xor_right_inj]

theorem xor_eq_self_iff (a b : UInt8) : a ^^^ b = a ↔ b = 0 := by
  calc
    a ^^^ b = a ↔ a ^^^ b = a ^^^ 0 := by rw [UInt8.xor_zero]
    _ ↔ b = 0 := UInt8.xor_right_inj a

end AccessBits

/-! ## Errors -/

/-- The bits that an error flips in the three bytes that are checked. -/
structure BitError where
  e0 : UInt8
  e1 : UInt8
  e2 : UInt8
  deriving DecidableEq, Repr

/-- How many bits of a byte are set. -/
def bitCount (byte : UInt8) : Nat := ((List.range 8).map fun i => (byte.toBitVec.getLsbD i).toNat).sum

namespace BitError

open AccessBits

/-- No bit is flipped. -/
def none : BitError := ⟨0, 0, 0⟩

/-- How many bits are flipped. -/
def weight (e : BitError) : Nat := bitCount e.e0 + bitCount e.e1 + bitCount e.e2

/-- Bits of one byte at most are flipped. -/
def InOneByte (e : BitError) : Prop :=
  (e.e1 = 0 ∧ e.e2 = 0) ∨ (e.e0 = 0 ∧ e.e2 = 0) ∨ (e.e0 = 0 ∧ e.e1 = 0)

/-- Every plain bit is flipped together with its inverted copy. -/
def Paired (e : BitError) : Prop :=
  e.e0 >>> (4 : UInt8) = e.e1 &&& (0x0f : UInt8) ∧ e.e0 &&& (0x0f : UInt8) = e.e2 >>> (4 : UInt8) ∧
    e.e1 >>> (4 : UInt8) = e.e2 &&& (0x0f : UInt8)

/-- The three bits of a block position, in the places where they are stored plain. -/
def plainAt (e : BitError) (i : UInt8) : List UInt8 := [bitAt e.e0 (4 + i), bitAt e.e0 i, bitAt e.e1 (4 + i)]

/-- The three bits of a block position, in the places where they are stored inverted. -/
def invertedAt (e : BitError) (i : UInt8) : List UInt8 := [bitAt e.e1 i, bitAt e.e2 (4 + i), bitAt e.e2 i]

/-- A bit of a block position is flipped, be it the plain one or its copy. -/
def Concerns (e : BitError) (i : UInt8) : Prop := ∃ bit ∈ e.plainAt i ++ e.invertedAt i, bit ≠ 0

instance (e : BitError) : Decidable e.InOneByte := inferInstanceAs (Decidable (_ ∨ _))

instance (e : BitError) : Decidable e.Paired := inferInstanceAs (Decidable (_ ∧ _))

variable {e : BitError} {i : UInt8}

theorem paired_iff : e.Paired ↔ low e.e1 = high e.e0 ∧ high e.e2 = low e.e0 ∧ low e.e2 = high e.e1 := by
  unfold Paired low high
  simp only [eq_comm]

/-- The bits of a byte are those of its two nibbles. -/
theorem bitCount_eq (byte : UInt8) : bitCount byte = bitCount (high byte) + bitCount (low byte) := by
  simp [bitCount, List.range_succ, high, low]
  omega

/-- Bits that are flipped in pairs are even in number. -/
theorem Paired.even_weight (h : e.Paired) : Even e.weight := by
  rcases paired_iff.1 h with ⟨h1, h2, h3⟩
  refine ⟨bitCount (high e.e0) + bitCount (low e.e0) + bitCount (high e.e1), ?_⟩
  rw [weight, bitCount_eq e.e0, bitCount_eq e.e1, bitCount_eq e.e2, h1, h2, h3]
  omega

theorem eq_zero_of_nibbles {byte : UInt8} (hhigh : high byte = 0) (hlow : low byte = 0) : byte = 0 := by
  rw [← join_high_low byte, hhigh, hlow]
  rfl

/-- The two copies of a bit stand in different bytes. -/
theorem Paired.eq_none_of_inOneByte (h : e.Paired) (hone : e.InOneByte) : e = none := by
  rcases e with ⟨e0, e1, e2⟩
  rcases paired_iff.1 h with ⟨h1, h2, h3⟩
  dsimp only [InOneByte] at h1 h2 h3 hone
  have hlow : low 0 = 0 := by decide
  have hhigh : high 0 = 0 := by decide
  rcases hone with ⟨rfl, rfl⟩ | ⟨rfl, rfl⟩ | ⟨rfl, rfl⟩
  · rw [eq_zero_of_nibbles (h1.symm.trans hlow) (h2.symm.trans hhigh), none]
  · rw [eq_zero_of_nibbles (h3.symm.trans hlow) (h1.trans hhigh), none]
  · rw [eq_zero_of_nibbles (h2.trans hlow) (h3.trans hhigh), none]

/-- If bits are flipped in pairs, the bits of a position are flipped in both places or in neither. -/
theorem Paired.invertedAt_eq (h : e.Paired) (hi : i ∈ positions) : e.invertedAt i = e.plainAt i := by
  rcases paired_iff.1 h with ⟨h1, h2, h3⟩
  rw [invertedAt, plainAt, ← bitAt_low hi e.e1, ← bitAt_high hi e.e2, ← bitAt_low hi e.e2, h1, h2, h3,
    bitAt_high hi, bitAt_low hi, bitAt_high hi]

end BitError

namespace AccessBits

variable {bits : AccessBits} {e : BitError} {i : UInt8}

/-! ## What the check notices -/

/-- Access bits in which an error has flipped bits. -/
def flipped (bits : AccessBits) (e : BitError) : AccessBits :=
  { bits with b0 := bits.b0 ^^^ e.e0, b1 := bits.b1 ^^^ e.e1, b2 := bits.b2 ^^^ e.e2 }

/-- Valid bits stay valid if every bit is flipped together with its copy, and only then. -/
theorem isValid_flipped (h : bits.isValid = true) : (bits.flipped e).isValid = true ↔ e.Paired := by
  rcases isValid_iff.1 h with ⟨h1, h2, h3⟩
  have hlow1 : low (bits.b1 ^^^ e.e1) = invert (high (bits.b0 ^^^ e.e0)) ↔ low e.e1 = high e.e0 := by
    rw [low_xor, high_xor, invert_xor, low_high, xor_eq_xor_iff h1]
  have hhigh2 : high (bits.b2 ^^^ e.e2) = invert (low (bits.b0 ^^^ e.e0)) ↔ high e.e2 = low e.e0 := by
    rw [high_xor, low_xor, invert_xor, low_low, xor_eq_xor_iff h2]
  have hlow2 : low (bits.b2 ^^^ e.e2) = invert (high (bits.b1 ^^^ e.e1)) ↔ low e.e2 = high e.e1 := by
    rw [low_xor, high_xor, invert_xor, low_high, xor_eq_xor_iff h3]
  rw [isValid_iff, BitError.paired_iff]
  exact and_congr hlow1 (and_congr hhigh2 hlow2)

/-- The check refuses the bits, and so does decoding them. -/
def Rejected (bits : AccessBits) : Prop :=
  bits.validate = .error .invalidAccessBits ∧ bits.decode = .error .invalidAccessBits

theorem rejected_iff : bits.Rejected ↔ bits.isValid = false := by
  unfold Rejected validate decode
  cases bits.isValid <;> simp

theorem rejected_flipped (h : bits.isValid = true) (he : ¬ e.Paired) : (bits.flipped e).Rejected := by
  rw [rejected_iff, Bool.eq_false_iff]
  exact fun hvalid => he ((isValid_flipped h).1 hvalid)

/-! ## What is read instead -/

theorem at?_conditions (hi : i ∈ positions) (bits : AccessBits) :
    bits.conditions.at? i.toNat = some (bits.conditionAt i) := by
  simp only [positions, List.mem_cons, List.not_mem_nil, or_false] at hi
  rcases hi with rfl | rfl | rfl | rfl <;> rfl

/-- A position has another condition if one of its plain bits is flipped, and only then. -/
theorem conditionAt_flipped_ne_iff (bits : AccessBits) (e : BitError) (i : UInt8) :
    (bits.flipped e).conditionAt i ≠ bits.conditionAt i ↔ ∃ bit ∈ e.plainAt i, bit ≠ 0 := by
  have hbits : (bits.flipped e).conditionAt i =
      ⟨bitAt bits.b0 (4 + i) ^^^ bitAt e.e0 (4 + i), bitAt bits.b0 i ^^^ bitAt e.e0 i,
        bitAt bits.b1 (4 + i) ^^^ bitAt e.e1 (4 + i)⟩ := by
    simp only [conditionAt, flipped, bitAt_xor]
  rw [hbits, conditionAt, Ne, Condition.mk.injEq, not_and_or, not_and_or, xor_eq_self_iff, xor_eq_self_iff,
    xor_eq_self_iff]
  simp [BitError.plainAt]

/-- Errors that the check does not notice change the condition of a position if they concern it, and only then. -/
theorem decode_flipped (h : bits.isValid = true) (he : e.Paired) :
    ∃ before after, bits.decode = .ok before ∧ (bits.flipped e).decode = .ok after ∧
      ∀ i ∈ positions, after.at? i.toNat ≠ before.at? i.toNat ↔ e.Concerns i := by
  refine ⟨bits.conditions, (bits.flipped e).conditions, decode_eq_ok_iff.2 ⟨h, rfl⟩,
    decode_eq_ok_iff.2 ⟨(isValid_flipped h).2 he, rfl⟩, fun i hi => ?_⟩
  calc
    (bits.flipped e).conditions.at? i.toNat ≠ bits.conditions.at? i.toNat
        ↔ (bits.flipped e).conditionAt i ≠ bits.conditionAt i := by
          rw [at?_conditions hi, at?_conditions hi, Ne, Option.some_inj]
    _ ↔ ∃ bit ∈ e.plainAt i, bit ≠ 0 := conditionAt_flipped_ne_iff bits e i
    _ ↔ e.Concerns i := by
          rw [BitError.Concerns, he.invertedAt_eq hi]
          simp

/-- Bits that pass the check, whatever conditions they hold, pass it again after an error if and only if every bit is
flipped together with its inverted copy.  Errors of an odd number of bits, and errors that change one byte alone, are
refused by the check and by decoding.  What passes is decoded, and the conditions that have changed are those of the
positions that the error concerns. -/
theorem validate_flipped (bits : AccessBits) (h : bits.validate = .ok ()) (e : BitError) :
    ((bits.flipped e).validate = .ok () ↔ e.Paired) ∧ (¬ e.Paired → (bits.flipped e).Rejected) ∧
      (Odd e.weight → (bits.flipped e).Rejected) ∧ (e ≠ .none → e.InOneByte → (bits.flipped e).Rejected) ∧
      ((bits.flipped e).validate = .ok () →
        ∃ before after, bits.decode = .ok before ∧ (bits.flipped e).decode = .ok after ∧
          ∀ i ∈ positions, after.at? i.toNat ≠ before.at? i.toNat ↔ e.Concerns i) := by
  have hvalid := validate_eq_ok_iff.1 h
  have hpaired : (bits.flipped e).validate = .ok () ↔ e.Paired :=
    validate_eq_ok_iff.trans (isValid_flipped hvalid)
  refine ⟨hpaired, rejected_flipped hvalid, fun hodd => ?_, fun hsome hone => ?_,
    fun hpassed => decode_flipped hvalid (hpaired.1 hpassed)⟩
  · refine rejected_flipped hvalid fun he => ?_
    exact (Nat.not_even_iff_odd.2 hodd) he.even_weight
  · exact rejected_flipped hvalid fun he => hsome (he.eq_none_of_inOneByte hone)

/-- The error flips the first bit of position 2, in both places, in bits whose conditions belong to no policy. -/
theorem validate_flipped_position :
    let bits : AccessBits := encode ⟨⟨0, 1, 0⟩, ⟨1, 1, 1⟩, ⟨0, 0, 1⟩, ⟨1, 0, 1⟩⟩
    let e : BitError := ⟨0x40, 0x04, 0x00⟩
    bits.validate = .ok () ∧ e.Paired ∧ (bits.flipped e).validate = .ok () := by
  intro bits e
  have hbits : bits.validate = .ok () := by decide
  have hpaired : e.Paired := by decide
  exact ⟨hbits, hpaired, (validate_flipped bits hbits e).1.2 hpaired⟩

end AccessBits
end SectorCard
