import SectorCard.Text.Utf8

/-!
# Text that was encoded

Bytes of unknown origin are shown as text with a replacement character for whatever is no text.  Bytes that come from a
text are shown as that text (`lossy_encode`), so it is only the broken stretches that are not shown as they are.
-/

namespace SectorCard.Utf8

/-! ## Bytes of a text -/

theorem toList_loop (bytes : ByteArray) (i : Nat) (front : List UInt8) :
    ByteArray.toList.loop bytes i front = front.reverse ++ bytes.data.toList.drop i := by
  induction i, front using ByteArray.toList.loop.induct bytes with
  | case1 i front hi ih =>
    have hlength : i < bytes.data.toList.length := by simpa using hi
    have hget : bytes.get! i = bytes.data.toList[i] := getElem!_pos bytes.data i (by simpa using hi)
    rw [ByteArray.toList.loop, if_pos hi, ih, List.drop_eq_getElem_cons hlength, hget]
    simp
  | case2 i front hi =>
    have hlength : bytes.data.toList.length ≤ i := by simpa using hi
    rw [ByteArray.toList.loop, if_neg hi, List.drop_eq_nil_of_le hlength, List.append_nil]

/-- A text is encoded character by character. -/
theorem encode_eq (text : String) : encode text = text.toList.flatMap String.utf8EncodeChar := by
  unfold encode String.toUTF8 ByteArray.toList
  rw [toList_loop, ← String.utf8Encode_toList, List.utf8Encode, List.toList_data_toByteArray]
  rfl

/-! ## One character -/

/-- What is in the middle of a character is completed by as many bytes as are owed, of six bits each. -/
theorem piecesFrom_tails {digits : List Nat} (hne : digits ≠ []) (hdigits : ∀ d ∈ digits, d < 64) (p : Pending)
    (howed : p.owed = digits.length) (hfirst : ∀ d ∈ digits.head?, p.low ≤ d + 128 ∧ d + 128 ≤ p.high) (rest : Bytes) :
    piecesFrom (some p) (digits.map (fun d => UInt8.ofNat (d + 128)) ++ rest) =
      .char (Char.ofNat (digits.foldl (fun value d => value * 64 + d) p.value)) :: piecesFrom none rest := by
  induction digits generalizing p with
  | nil => exact absurd rfl hne
  | cons d digits ih =>
    have hd : d < 64 := hdigits d List.mem_cons_self
    have htoNat : (UInt8.ofNat (d + 128)).toNat = d + 128 := by
      rw [UInt8.toNat_ofNat']
      omega
    -- Only the first of the owed bytes has bounds of its own; after it, any byte of the right form will do.
    have hfits := hfirst d rfl
    have hvalue : p.value * 64 + ((UInt8.ofNat (d + 128)).toNat - 0x80) = p.value * 64 + d := by
      rw [htoNat]
      omega
    rw [List.map_cons, List.cons_append, piecesFrom, htoNat, if_pos hfits]
    cases digits with
    | nil =>
      have hlast : p.owed = 1 := howed
      rw [if_pos hlast]
      simp only [Pending.push, hvalue]
      rfl
    | cons next digits =>
      have hmore : p.owed ≠ 1 := by
        rw [howed, List.length_cons, List.length_cons]
        omega
      rw [if_neg hmore, ih (List.cons_ne_nil next digits) (fun d hd => hdigits d (List.mem_cons_of_mem _ hd))]
      · simp only [Pending.push, hvalue, List.foldl_cons]
      · simp [Pending.push, howed]
      · intro d hd
        have hmem : d ∈ next :: digits := List.mem_of_mem_head? hd
        have hd' := hdigits d (List.mem_cons_of_mem _ hmem)
        simp only [Pending.push]
        omega

section Start

variable {v : Nat}

theorem start_one (h : v ≤ 0x7f) : start (UInt8.ofNat v) = .inl (.char (Char.ofNat v)) := by
  have htoNat : (UInt8.ofNat v).toNat = v := by
    rw [UInt8.toNat_ofNat']
    omega
  unfold start
  rw [htoNat]
  exact if_pos (by omega)

theorem start_two (hlow : 0x7f < v) (hhigh : v ≤ 0x7ff) :
    start (UInt8.ofNat (v / 64 % 32 + 192)) = .inr ⟨[UInt8.ofNat (v / 64 % 32 + 192)], 1, 0x80, 0xbf, v / 64⟩ := by
  have htoNat : (UInt8.ofNat (v / 64 % 32 + 192)).toNat = v / 64 + 192 := by
    rw [UInt8.toNat_ofNat']
    omega
  unfold start
  rw [htoNat, if_neg (by omega), if_pos (by omega), Nat.add_sub_cancel]

/-- The first of three bytes rules out what two bytes would do for, and what is no character. -/
theorem start_three (hlow : 0x7ff < v) (hhigh : v ≤ 0xffff) (hvalid : v.isValidChar) :
    ∃ low high, low ≤ v / 64 % 64 + 128 ∧ v / 64 % 64 + 128 ≤ high ∧
      start (UInt8.ofNat (v / 4096 % 16 + 224)) =
        .inr ⟨[UInt8.ofNat (v / 4096 % 16 + 224)], 2, low, high, v / 4096⟩ := by
  have htoNat : (UInt8.ofNat (v / 4096 % 16 + 224)).toNat = v / 4096 + 224 := by
    rw [UInt8.toNat_ofNat']
    omega
  unfold Nat.isValidChar at hvalid
  unfold start
  rw [htoNat, if_neg (by omega), if_neg (by omega), Nat.add_sub_cancel]
  by_cases hfirst : v / 4096 + 224 = 0xe0
  · exact ⟨0xa0, 0xbf, by omega, by omega, if_pos hfirst⟩
  · rw [if_neg hfirst]
    by_cases hgap : v / 4096 + 224 = 0xed
    · exact ⟨0x80, 0x9f, by omega, by omega, if_pos hgap⟩
    · rw [if_neg hgap]
      exact ⟨0x80, 0xbf, by omega, by omega, if_pos (by omega)⟩

/-- The first of four bytes rules out what three bytes would do for, and what is beyond the last character. -/
theorem start_four (hlow : 0xffff < v) (hvalid : v.isValidChar) :
    ∃ low high, low ≤ v / 4096 % 64 + 128 ∧ v / 4096 % 64 + 128 ≤ high ∧
      start (UInt8.ofNat (v / 262144 % 8 + 240)) =
        .inr ⟨[UInt8.ofNat (v / 262144 % 8 + 240)], 3, low, high, v / 262144⟩ := by
  unfold Nat.isValidChar at hvalid
  have htoNat : (UInt8.ofNat (v / 262144 % 8 + 240)).toNat = v / 262144 + 240 := by
    rw [UInt8.toNat_ofNat']
    omega
  unfold start
  rw [htoNat, if_neg (by omega), if_neg (by omega), if_neg (by omega), if_neg (by omega), if_neg (by omega),
    Nat.add_sub_cancel]
  by_cases hfirst : v / 262144 + 240 = 0xf0
  · exact ⟨0x90, 0xbf, by omega, by omega, if_pos hfirst⟩
  · rw [if_neg hfirst]
    by_cases hmiddle : 0xf1 ≤ v / 262144 + 240 ∧ v / 262144 + 240 ≤ 0xf3
    · exact ⟨0x80, 0xbf, by omega, by omega, if_pos hmiddle⟩
    · rw [if_neg hmiddle]
      exact ⟨0x80, 0x8f, by omega, by omega, if_pos (by omega)⟩

end Start

/-- A byte that starts a character, and as many bytes as it calls for. -/
theorem piecesFrom_lead {b : UInt8} {p : Pending} (hstart : start b = .inr p) {digits : List Nat} (hne : digits ≠ [])
    (hdigits : ∀ d ∈ digits, d < 64) (howed : p.owed = digits.length)
    (hfirst : ∀ d ∈ digits.head?, p.low ≤ d + 128 ∧ d + 128 ≤ p.high) {v : Nat}
    (hvalue : digits.foldl (fun value d => value * 64 + d) p.value = v) (rest : Bytes) :
    piecesFrom none (b :: digits.map (fun d => UInt8.ofNat (d + 128)) ++ rest) =
      .char (Char.ofNat v) :: piecesFrom none rest := by
  rw [List.cons_append, piecesFrom, hstart, ← hvalue]
  exact piecesFrom_tails hne hdigits p howed hfirst rest

/-- The bytes of a character are cut into that character and what follows. -/
theorem piecesFrom_utf8EncodeChar (c : Char) (rest : Bytes) :
    piecesFrom none (String.utf8EncodeChar c ++ rest) = .char c :: piecesFrom none rest := by
  have hvalid : c.val.toNat.isValidChar := c.valid
  have hchar : Char.ofNat c.val.toNat = c := Char.ofNat_toNat c
  unfold String.utf8EncodeChar
  generalize c.val.toNat = v at hvalid hchar
  simp only
  -- The number of bytes decides; each time, the value of the character is put together from its pieces of six bits.
  split
  · rename_i hone
    rw [List.singleton_append, piecesFrom, start_one hone, hchar]
  · rename_i hone
    split
    · rename_i htwo
      have hpieces := piecesFrom_lead (start_two (by omega) htwo) (List.cons_ne_nil (v % 64) []) (by simp; omega) rfl
        (by simp; omega) (show v / 64 * 64 + v % 64 = v by omega) rest
      rwa [hchar] at hpieces
    · rename_i htwo
      split
      · rename_i hthree
        rcases start_three (by omega) hthree hvalid with ⟨low, high, hlow, hhigh, hstart⟩
        have hpieces := piecesFrom_lead hstart (List.cons_ne_nil (v / 64 % 64) [v % 64]) (by simp; omega) rfl
          (by simp [hlow, hhigh]) (show (v / 4096 * 64 + v / 64 % 64) * 64 + v % 64 = v by omega) rest
        rwa [hchar] at hpieces
      · rename_i hthree
        rcases start_four (by omega) hvalid with ⟨low, high, hlow, hhigh, hstart⟩
        have hpieces := piecesFrom_lead hstart (List.cons_ne_nil (v / 4096 % 64) [v / 64 % 64, v % 64])
          (by simp; omega) rfl (by simp [hlow, hhigh])
          (show ((v / 262144 * 64 + v / 4096 % 64) * 64 + v / 64 % 64) * 64 + v % 64 = v by omega) rest
        rwa [hchar] at hpieces

/-! ## Whole texts -/

/-- What was encoded is cut into its characters. -/
theorem pieces_encode (text : String) : pieces (encode text) = text.toList.map .char := by
  rw [encode_eq, pieces]
  induction text.toList with
  | nil => rfl
  | cons c rest ih => rw [List.flatMap_cons, piecesFrom_utf8EncodeChar, ih, List.map_cons]

/-- A text that was encoded is shown as it was. -/
theorem lossy_encode (text : String) : lossy (encode text) = text := by
  rw [lossy, pieces_encode, List.map_map]
  exact (congrArg String.ofList (List.map_id _)).trans String.ofList_toList

/-- Bytes are a text in the encoding that is shown. -/
def IsText (data : Bytes) : Prop := encode (lossy data) = data

theorem isText_iff {data : Bytes} : IsText data ↔ ∃ text, data = encode text := by
  constructor
  · intro h
    exact ⟨lossy data, h.symm⟩
  · rintro ⟨text, rfl⟩
    rw [IsText, lossy_encode]

end SectorCard.Utf8
