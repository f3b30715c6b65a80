import Mathlib.Tactic.IntervalCases
import SectorCard.Card.Blocks

/-!
# Trailers as bytes

A trailer packs twelve condition bits into three bytes, each nibble once plain and once inverted, between its two
keys.  Packing loses nothing but the bits that do not count, and the check of a trailer accepts exactly what packing
produces (`SectorTrailer.roundTrips`).

The nibbles carry the argument: a byte is its two nibbles, a nibble is its four bits, and access bits are valid if
three of their nibbles are the inverted copies of the other three.  The user byte has no part in any of this.
-/

namespace SectorCard

namespace AccessBits

/-! ## Bytes and their nibbles -/

theorem join_high_low (byte : UInt8) : join (high byte) (low byte) = byte := by
  apply UInt8.eq_of_toBitVec_eq
  ext i hi
  interval_cases i <;> simp [join, high, low]

theorem high_join_low (hi lo : UInt8) : high (join hi (low lo)) = low hi := by
  apply UInt8.eq_of_toBitVec_eq
  ext i hi
  interval_cases i <;> simp [join, high, low]

theorem low_join (hi lo : UInt8) : low (join hi lo) = low lo := by
  apply UInt8.eq_of_toBitVec_eq
  ext i hi
  interval_cases i <;> simp [join, low]

theorem low_high (byte : UInt8) : low (high byte) = high byte := by
  apply UInt8.eq_of_toBitVec_eq
  ext i hi
  interval_cases i <;> simp [high, low]

theorem low_low (byte : UInt8) : low (low byte) = low byte := by
  simp [low, UInt8.and_assoc]

theorem low_invert (nibble : UInt8) : low (invert nibble) = invert nibble := low_low _

/-- Two nibbles can be told from the byte they are joined to. -/
theorem halves_join {hi lo : UInt8} (hhi : low hi = hi) (hlo : low lo = lo) :
    high (join hi lo) = hi ∧ low (join hi lo) = lo := by
  constructor
  · calc
      high (join hi lo)
          = high (join hi (low lo)) := by rw [hlo]
      _ = hi := by rw [high_join_low, hhi]
  · rw [low_join, hlo]

/-! ## Nibbles and their bits -/

theorem and_one_eq (byte : UInt8) : byte &&& (1 : UInt8) = 0 ∨ byte &&& (1 : UInt8) = 1 := by
  rcases Nat.mod_two_eq_zero_or_one byte.toNat with h | h
  · left
    apply UInt8.toNat_inj.1
    simp [UInt8.toNat_and, h]
  · right
    apply UInt8.toNat_inj.1
    simp [UInt8.toNat_and, h]

/-- What is gathered is a nibble, and its bits are the lowest bits of what it was gathered from. -/
theorem gather_spec (p0 p1 p2 p3 : UInt8) :
    low (gather p0 p1 p2 p3) = gather p0 p1 p2 p3 ∧
      bitAt (gather p0 p1 p2 p3) 0 = p0 &&& (1 : UInt8) ∧ bitAt (gather p0 p1 p2 p3) 1 = p1 &&& (1 : UInt8) ∧
      bitAt (gather p0 p1 p2 p3) 2 = p2 &&& (1 : UInt8) ∧ bitAt (gather p0 p1 p2 p3) 3 = p3 &&& (1 : UInt8) := by
  unfold gather place
  -- Only the lowest bits matter, so there are sixteen cases.
  rcases and_one_eq p0 with h0 | h0 <;> rcases and_one_eq p1 with h1 | h1 <;>
    rcases and_one_eq p2 with h2 | h2 <;> rcases and_one_eq p3 with h3 | h3 <;>
    rw [h0, h1, h2, h3] <;> decide

theorem gather_bitAt (byte : UInt8) :
    gather (bitAt byte 0) (bitAt byte 1) (bitAt byte 2) (bitAt byte 3) = low byte := by
  apply UInt8.eq_of_toBitVec_eq
  ext i hi
  interval_cases i <;> simp [gather, place, bitAt, low]

def positions : List UInt8 := [0, 1, 2, 3]

theorem bitAt_high {i : UInt8} (h : i ∈ positions) (byte : UInt8) : bitAt (high byte) i = bitAt byte (4 + i) := by
  apply UInt8.eq_of_toBitVec_eq
  ext j hj
  simp only [positions, List.mem_cons, List.not_mem_nil, or_false] at h
  rcases h with rfl | rfl | rfl | rfl <;> interval_cases j <;> simp [bitAt, high]

theorem bitAt_low {i : UInt8} (h : i ∈ positions) (byte : UInt8) : bitAt (low byte) i = bitAt byte i := by
  apply UInt8.eq_of_toBitVec_eq
  ext j hj
  simp only [positions, List.mem_cons, List.not_mem_nil, or_false] at h
  rcases h with rfl | rfl | rfl | rfl <;> interval_cases j <;> simp [bitAt, low]

/-! ## Access bits by their nibbles -/

theorem conditionAt_eq {i : UInt8} (h : i ∈ positions) (bits : AccessBits) :
    bits.conditionAt i = ⟨bitAt (high bits.b0) i, bitAt (low bits.b0) i, bitAt (high bits.b1) i⟩ := by
  rw [bitAt_high h, bitAt_low h, bitAt_high h]
  rfl

theorem conditions_eq (bits : AccessBits) :
    bits.conditions =
      ⟨⟨bitAt (high bits.b0) 0, bitAt (low bits.b0) 0, bitAt (high bits.b1) 0⟩,
        ⟨bitAt (high bits.b0) 1, bitAt (low bits.b0) 1, bitAt (high bits.b1) 1⟩,
        ⟨bitAt (high bits.b0) 2, bitAt (low bits.b0) 2, bitAt (high bits.b1) 2⟩,
        ⟨bitAt (high bits.b0) 3, bitAt (low bits.b0) 3, bitAt (high bits.b1) 3⟩⟩ := by
  unfold conditions
  rw [conditionAt_eq (by decide), conditionAt_eq (by decide), conditionAt_eq (by decide), conditionAt_eq (by decide)]

theorem isValid_iff {bits : AccessBits} :
    bits.isValid = true ↔ low bits.b1 = invert (high bits.b0) ∧ high bits.b2 = invert (low bits.b0) ∧
      low bits.b2 = invert (high bits.b1) := by
  simp [isValid, and_assoc]

/-- The six nibbles of packed conditions: the three kinds of bits, and their inverted copies. -/
theorem nibbles_encode (c : AccessConditions) :
    let c1 := gather c.data0.c1 c.data1.c1 c.data2.c1 c.trailer.c1
    let c2 := gather c.data0.c2 c.data1.c2 c.data2.c2 c.trailer.c2
    let c3 := gather c.data0.c3 c.data1.c3 c.data2.c3 c.trailer.c3
    (high (encode c).b0 = c1 ∧ low (encode c).b0 = c2) ∧
      (high (encode c).b1 = c3 ∧ low (encode c).b1 = invert c1) ∧
        high (encode c).b2 = invert c2 ∧ low (encode c).b2 = invert c3 := by
  intro c1 c2 c3
  have h1 : low c1 = c1 := (gather_spec _ _ _ _).1
  have h2 : low c2 = c2 := (gather_spec _ _ _ _).1
  have h3 : low c3 = c3 := (gather_spec _ _ _ _).1
  exact ⟨halves_join h1 h2, halves_join h3 (low_invert c1), halves_join (low_invert c2) (low_invert c3)⟩

theorem isValid_encode (c : AccessConditions) : (encode c).isValid = true := by
  rcases nibbles_encode c with ⟨⟨hc1, hc2⟩, ⟨hc3, hi1⟩, hi2, hi3⟩
  rw [isValid_iff, hc1, hc2, hc3]
  exact ⟨hi1, hi2, hi3⟩

/-- Packed conditions are read back, up to the bits that do not count. -/
theorem conditions_encode (c : AccessConditions) : (encode c).conditions = c.reduce := by
  rcases nibbles_encode c with ⟨⟨hc1, hc2⟩, ⟨hc3, -⟩, -⟩
  rw [conditions_eq, hc1, hc2, hc3]
  simp only [gather_spec, AccessConditions.reduce, Condition.reduce]

/-- Valid bits are what packing their conditions produces, but for the user byte. -/
theorem encode_conditions {bits : AccessBits} (h : bits.isValid = true) :
    encode bits.conditions = { bits with user := 0 } := by
  rcases isValid_iff.1 h with ⟨h1, h2, h3⟩
  have hc1 := (gather_bitAt (high bits.b0)).trans (low_high _)
  have hc2 := (gather_bitAt (low bits.b0)).trans (low_low _)
  have hc3 := (gather_bitAt (high bits.b1)).trans (low_high _)
  rw [conditions_eq]
  simp only [encode, hc1, hc2, hc3, ← h1, ← h2, ← h3, join_high_low]

theorem ofBytes_eq_ok {bytes : Bytes} (h : bytes.length = 4) : ∃ bits, ofBytes bytes = .ok bits := by
  match bytes, h with
  | [b0, b1, b2, user], _ => exact ⟨⟨b0, b1, b2, user⟩, rfl⟩

theorem decode_encode (c : AccessConditions) : (encode c).decode = .ok c.reduce := by
  rw [decode, if_pos (isValid_encode c), conditions_encode]

theorem decode_eq_ok_iff {bits : AccessBits} {c : AccessConditions} :
    bits.decode = .ok c ↔ bits.isValid = true ∧ bits.conditions = c := by
  unfold decode
  split <;> simp_all

theorem validate_eq_ok_iff {bits : AccessBits} : bits.validate = .ok () ↔ bits.isValid = true := by
  unfold validate
  split <;> simp_all

/-- The check accepts exactly the bits that packing some conditions produces, whatever the user byte is. -/
theorem isValid_iff_encode {bits : AccessBits} :
    bits.isValid = true ↔ ∃ c, bits.toBytes.take 3 = (encode c).toBytes.take 3 := by
  constructor
  · intro h
    refine ⟨bits.conditions, ?_⟩
    rw [encode_conditions h]
    rfl
  · rintro ⟨c, hc⟩
    have hvalid := isValid_encode c
    simp only [toBytes, List.take_succ_cons, List.take_zero, List.cons.injEq, and_true] at hc
    rcases hc with ⟨h0, h1, h2⟩
    rw [isValid_iff] at hvalid ⊢
    rwa [h0, h1, h2]

end AccessBits

/-! ## Policies -/

namespace AccessConditions

theorem policy?_eq_some_iff {c : AccessConditions} {policy : AccessPolicy} :
    c.policy? = some policy ↔ policy.condition = .ok c.data0 ∧ c.data1 = c.data0 ∧ c.data2 = c.data0 := by
  unfold policy?
  split
  · rename_i hsame
    rw [AccessPolicy.ofCondition?_eq_some_iff]
    exact (and_iff_left hsame).symm
  · rename_i hdiffer
    constructor
    · rintro ⟨⟩
    · rintro ⟨-, hsame⟩
      exact absurd hsame hdiffer

/-- A policy can be told from conditions exactly if there are access bits for it with which all data positions
agree. -/
theorem policy?_eq_some_iff_make {c : AccessConditions} {policy : AccessPolicy} :
    c.policy? = some policy ↔ ∃ bits made, AccessBits.make policy = .ok bits ∧ bits.decode = .ok made ∧
      c.data0 = made.data0 ∧ c.data1 = made.data1 ∧ c.data2 = made.data2 := by
  constructor
  · intro h
    rcases policy?_eq_some_iff.1 h with ⟨hcondition, h1, h2⟩
    have hmake : AccessBits.make policy = .ok (AccessBits.encode (.uniform c.data0 .trailer)) := by
      rw [AccessBits.make, hcondition]
    rcases AccessBits.decode_of_make hmake with ⟨made, hmade, hpolicy, -⟩
    rcases policy?_eq_some_iff.1 hpolicy with ⟨hcondition', h1', h2'⟩
    have h0 : c.data0 = made.data0 := Except.ok.inj (hcondition.symm.trans hcondition')
    exact ⟨_, made, hmake, hmade, h0, by rw [h1, h1', h0], by rw [h2, h2', h0]⟩
  · -- The bits of a policy have its condition in all data positions, and so have conditions that agree with them.
    rintro ⟨bits, made, hmake, hmade, h0, h1, h2⟩
    rcases AccessBits.decode_of_make hmake with ⟨made', hmade', hpolicy, -⟩
    cases hmade.symm.trans hmade'
    rw [policy?_eq_some_iff] at hpolicy ⊢
    rwa [h0, h1, h2]

end AccessConditions

namespace SectorTrailer

/-! ## Trailers -/

/-- Every block can be taken for a trailer. -/
theorem ofBytes_block (page : Block) : ∃ trailer, ofBytes page.bytes = .ok trailer ∧ trailer.toBytes = page.bytes := by
  have hlength : page.bytes.length = 16 := page.length_bytes
  have hA : (page.bytes.take 6).length = keySize := by simp [hlength, keySize]
  have hB : (page.bytes.drop 10).length = keySize := by simp [hlength, keySize]
  have hC : ((page.bytes.drop 6).take 4).length = 4 := by simp [hlength]
  rcases AccessBits.ofBytes_eq_ok hC with ⟨access, haccess⟩
  have hread : ofBytes page.bytes = .ok ⟨⟨_, hA⟩, access, ⟨_, hB⟩⟩ := by
    rw [ofBytes, haccess, Key.ofBytes, dif_pos hA, Key.ofBytes, dif_pos hB]
    rfl
  exact ⟨_, hread, toBytes_of_ofBytes hread⟩

/-- Putting a valid trailer together again from what it decodes to gives back its bytes, if the user byte is zero. -/
theorem toBytes_of_decode {trailer : SectorTrailer} {c : AccessConditions} (h : trailer.access.decode = .ok c)
    (huser : trailer.access.user = 0) :
    (⟨trailer.keyA, AccessBits.encode c, trailer.keyB⟩ : SectorTrailer).toBytes = trailer.toBytes := by
  rcases AccessBits.decode_eq_ok_iff.1 h with ⟨hvalid, rfl⟩
  rw [AccessBits.encode_conditions hvalid, ← huser]

/-- A trailer that is put together from two keys and any conditions is valid, and its bytes give back the keys and the
bits of the conditions that count.  Any sixteen bytes are those of a trailer.  It is valid exactly if its access bytes,
but for the user byte, are those of some conditions.  Then it can be put together again from what it gives back, if
the user byte is zero, and its policy is told exactly if the data positions agree with the access bits of a policy. -/
theorem roundTrips :
    (∀ (a b : Key) (c : AccessConditions),
      let built : SectorTrailer := ⟨a, AccessBits.encode c, b⟩
      built.validate = .ok () ∧ ∃ parsed, ofBytes built.toBytes = .ok parsed ∧ parsed.keyA = a ∧ parsed.keyB = b ∧
        parsed.access.decode = .ok c.reduce) ∧
    ∀ page : Block, ∃ trailer, ofBytes page.bytes = .ok trailer ∧ trailer.toBytes = page.bytes ∧
      (trailer.validate = .ok () ↔ ∃ c, trailer.access.toBytes.take 3 = (AccessBits.encode c).toBytes.take 3) ∧
      (trailer.validate = .ok () → ∃ c, trailer.access.decode = .ok c ∧
        (trailer.access.user = 0 →
          (⟨trailer.keyA, AccessBits.encode c, trailer.keyB⟩ : SectorTrailer).toBytes = page.bytes) ∧
        ∀ policy, c.policy? = some policy ↔ ∃ bits made, AccessBits.make policy = .ok bits ∧
          bits.decode = .ok made ∧ c.data0 = made.data0 ∧ c.data1 = made.data1 ∧ c.data2 = made.data2) := by
  constructor
  · intro a b c built
    have hvalid : built.validate = .ok () := AccessBits.validate_eq_ok_iff.2 (AccessBits.isValid_encode c)
    exact ⟨hvalid, built, ofBytes_toBytes built, rfl, rfl, AccessBits.decode_encode c⟩
  · intro page
    rcases ofBytes_block page with ⟨trailer, hread, hbytes⟩
    have hvalidate : trailer.validate = .ok () ↔ trailer.access.isValid = true := AccessBits.validate_eq_ok_iff
    refine ⟨trailer, hread, hbytes, hvalidate.trans AccessBits.isValid_iff_encode, fun hvalid => ?_⟩
    have hdecode : trailer.access.decode = .ok trailer.access.conditions :=
      AccessBits.decode_eq_ok_iff.2 ⟨hvalidate.1 hvalid, rfl⟩
    refine ⟨_, hdecode, fun huser => ?_, fun policy => AccessConditions.policy?_eq_some_iff_make⟩
    rw [toBytes_of_decode hdecode huser, hbytes]

/-- Data positions with different conditions are packed and read back like any others, but stand for no policy. -/
example :
    let c : AccessConditions := ⟨⟨0, 0, 0⟩, ⟨0, 1, 0⟩, ⟨0, 0, 0⟩, .trailer⟩
    (AccessBits.encode c).decode = .ok c ∧ c.policy? = none := by
  decide

end SectorTrailer
end SectorCard
