import SectorCard.Access.Bits
import SectorCard.Key.Material

/-!
# Sector trailers

The last block of a sector holds key A, the access bytes and key B, in this order.  Cards do not give key A
away: a trailer that was read back carries zeros in its place.

Main statements: `SectorTrailer.ofBytes_toBytes` and `SectorTrailer.toBytes_of_ofBytes`, a trailer and its
sixteen bytes determine each other.
-/

namespace SectorCard

/-- The last block of a sector. -/
structure SectorTrailer where
  keyA : Key
  access : AccessBits
  keyB : Key
  deriving DecidableEq

namespace SectorTrailer

def toBytes (t : SectorTrailer) : Bytes := t.keyA.bytes ++ t.access.toBytes ++ t.keyB.bytes

/-- A trailer from bytes, which must be sixteen; the access bits are not checked. -/
def ofBytes (bytes : Bytes) : Except CardError SectorTrailer := do
  let keyA ← Key.ofBytes (bytes.take 6)
  let access ← AccessBits.ofBytes ((bytes.drop 6).take 4)
  let keyB ← Key.ofBytes (bytes.drop 10)
  pure ⟨keyA, access, keyB⟩

def validate (t : SectorTrailer) : Except CardError Unit := t.access.validate

def region (t : SectorTrailer) (selector : KeySelector) : Bytes :=
  selector.regions.flatMap fun (first, stop) => (t.toBytes.drop first).take (stop - first)

def describe (t : SectorTrailer) : String :=
  "SectorTrailer \x7b access_bits: " ++ t.access.describe ++ ", .. \x7d"

@[simp] theorem length_toBytes (t : SectorTrailer) : t.toBytes.length = 16 := by
  simp [toBytes, t.keyA.length_bytes, t.keyB.length_bytes, keySize]

theorem take_six_toBytes (t : SectorTrailer) : t.toBytes.take 6 = t.keyA.bytes := by
  have hlength : t.keyA.bytes.length = 6 := t.keyA.length_bytes
  rw [toBytes, List.append_assoc, ← hlength, List.take_left]

theorem drop_six_toBytes (t : SectorTrailer) : t.toBytes.drop 6 = t.access.toBytes ++ t.keyB.bytes := by
  have hlength : t.keyA.bytes.length = 6 := t.keyA.length_bytes
  rw [toBytes, List.append_assoc, ← hlength, List.drop_left]

theorem drop_ten_toBytes (t : SectorTrailer) : t.toBytes.drop 10 = t.keyB.bytes := by
  calc
    t.toBytes.drop 10
        = (t.toBytes.drop 6).drop t.access.toBytes.length := by rw [List.drop_drop, AccessBits.length_toBytes]
    _ = t.keyB.bytes := by rw [drop_six_toBytes, List.drop_left]

theorem accessPart_toBytes (t : SectorTrailer) : (t.toBytes.drop 6).take 4 = t.access.toBytes := by
  rw [drop_six_toBytes, ← t.access.length_toBytes, List.take_left]

@[simp] theorem ofBytes_toBytes (t : SectorTrailer) : ofBytes t.toBytes = .ok t := by
  rw [ofBytes, take_six_toBytes, accessPart_toBytes, drop_ten_toBytes, Key.ofBytes_bytes, Key.ofBytes_bytes]
  rfl

/-- A trailer that was read from bytes has those bytes. -/
theorem toBytes_of_ofBytes {bytes : Bytes} {t : SectorTrailer} (h : ofBytes bytes = .ok t) :
    t.toBytes = bytes := by
  unfold ofBytes at h
  cases hA : Key.ofBytes (bytes.take 6) with
  | error e => rw [hA] at h; cases h
  | ok keyA =>
    cases hC : AccessBits.ofBytes ((bytes.drop 6).take 4) with
    | error e => rw [hA, hC] at h; cases h
    | ok access =>
      cases hB : Key.ofBytes (bytes.drop 10) with
      | error e => rw [hA, hC, hB] at h; cases h
      | ok keyB =>
        rw [hA, hC, hB] at h
        cases h
        have eA := Key.ofBytes_eq_ok_iff.1 hA
        have eB := Key.ofBytes_eq_ok_iff.1 hB
        have eC : access.toBytes = (bytes.drop 6).take 4 := by
          unfold AccessBits.ofBytes at hC
          split at hC
          · rename_i h4
            cases hC
            exact h4.symm
          · cases hC
        show keyA.bytes ++ access.toBytes ++ keyB.bytes = bytes
        calc
          keyA.bytes ++ access.toBytes ++ keyB.bytes
              = bytes.take 6 ++ ((bytes.drop 6).take 4 ++ (bytes.drop 6).drop 4) := by
                rw [eA, eB, eC, List.append_assoc, List.drop_drop]
          _ = bytes.take 6 ++ bytes.drop 6 := by rw [List.take_append_drop]
          _ = bytes := List.take_append_drop 6 bytes

/-- Bytes are refused as a trailer only for their number. -/
theorem ofBytes_eq_error {bytes : Bytes} {e : CardError} (h : ofBytes bytes = .error e) : e = .size := by
  unfold ofBytes at h
  cases hA : Key.ofBytes (bytes.take 6) with
  | error d =>
    rw [hA] at h
    cases h
    exact Key.ofBytes_eq_error hA
  | ok keyA =>
    cases hC : AccessBits.ofBytes ((bytes.drop 6).take 4) with
    | error d =>
      rw [hA, hC] at h
      cases h
      exact AccessBits.ofBytes_eq_error hC
    | ok access =>
      cases hB : Key.ofBytes (bytes.drop 10) with
      | error d =>
        rw [hA, hC, hB] at h
        cases h
        exact Key.ofBytes_eq_error hB
      | ok keyB =>
        rw [hA, hC, hB] at h
        cases h

end SectorTrailer
end SectorCard
