/-!
# Byte strings

Commands, replies, keys and blocks are all lists of bytes.  This module holds the two operations the
library needs on them beyond the standard ones: bringing a byte string to a fixed length, and cutting a
byte string into pieces of equal size.

The main statements are `Bytes.length_fit` (a fitted string has the wanted length), `Bytes.fit_of_length`
(fitting does nothing to a string that already has it) and `Bytes.length_pieces` together with
`Bytes.getElem?_pieces` (how many pieces there are, and what each of them is).
-/

namespace SectorCard

abbrev Bytes := List UInt8

def blockSize : Nat := 16

namespace Bytes

/-! ## Fixed lengths -/

/-- `data` as exactly `n` bytes: zeros fill up what is missing, and what is beyond is cut off. -/
def fit (n : Nat) (data : Bytes) : Bytes :=
  data.take n ++ List.replicate (n - data.length) 0

@[simp] theorem length_fit (n : Nat) (data : Bytes) : (fit n data).length = n := by
  simp [fit]; omega

theorem fit_of_length {n : Nat} {data : Bytes} (h : data.length = n) : fit n data = data := by
  subst h
  simp [fit]

theorem take_fit {n : Nat} {data : Bytes} (h : data.length ≤ n) :
    (fit n data).take data.length = data := by
  simp [fit, List.take_of_length_le h]

theorem fit_take (n : Nat) (data : Bytes) : fit n (data.take n) = fit n data := by
  unfold fit
  rw [List.take_take, Nat.min_self, List.length_take]
  congr 2
  omega

/-- What begins inside a byte string, as it stands there, and zeros where it ends too early. -/
theorem fit_drop (n k : Nat) (data : Bytes) :
    fit n (data.drop k) = (data.drop k).take n ++ List.replicate (n - (data.length - k)) 0 := by
  rw [fit, List.length_drop]

/-! ## Pieces -/

/-- The number of pieces of `size` bytes that `length` bytes fill, the last one perhaps only in part. -/
def pieceCount (size length : Nat) : Nat :=
  (length + size - 1) / size

/-- `data` cut into pieces of `size` bytes; the last piece may be shorter. -/
def pieces (size : Nat) (data : Bytes) : List Bytes :=
  (List.range (pieceCount size data.length)).map fun i => (data.drop (i * size)).take size

def pieceLengths (size length : Nat) : List Nat :=
  (List.range (pieceCount size length)).map fun i => min size (length - i * size)

theorem lt_pieceCount_iff {size i length : Nat} (hsize : 0 < size) :
    i < pieceCount size length ↔ size * i < length := by
  unfold pieceCount
  rw [Nat.lt_div_iff_mul_lt hsize, Nat.mul_comm]
  omega

@[simp] theorem length_pieces (size : Nat) (data : Bytes) :
    (pieces size data).length = pieceCount size data.length := by
  simp [pieces]

theorem getElem?_pieces {size i : Nat} {data : Bytes} (h : i < pieceCount size data.length) :
    (pieces size data)[i]? = some ((data.drop (i * size)).take size) := by
  simp [pieces, h]

theorem length_le_of_mem_pieces {size : Nat} {data piece : Bytes} (h : piece ∈ pieces size data) :
    piece.length ≤ size := by
  obtain ⟨i, -, rfl⟩ := List.mem_map.1 h
  simp only [List.length_take]
  omega

theorem le_of_mem_pieceLengths {size length n : Nat} (h : n ∈ pieceLengths size length) : n ≤ size := by
  obtain ⟨i, -, rfl⟩ := List.mem_map.1 h
  omega

theorem pieces_nil (size : Nat) : pieces size [] = [] := by
  have : pieceCount size 0 = 0 := by
    unfold pieceCount
    cases size with
    | zero => rfl
    | succ n => exact Nat.div_eq_of_lt (by omega)
  simp [pieces, this]

/-- Cutting the lengths and cutting the bytes agree. -/
theorem map_length_pieces (size : Nat) (data : Bytes) :
    (pieces size data).map List.length = pieceLengths size data.length := by
  simp [pieces, pieceLengths]

end Bytes
end SectorCard
