import Mathlib.Data.List.Forall2
import Mathlib.Data.Nat.Digits.Defs
import SectorCard.Console.Invocation

/-!
# The grammar of numerals

Numbers are typed in as decimal numerals, or as hexadecimal ones after a marker; either may have a plus sign in front of
its digits and any number of leading zeros.  This is said here as a grammar that gives each numeral its value
(`Numeral.Marked`), apart from the reader, which goes from left to right and stops at the first character that is no
digit or takes the value over the bound.

Main statements: `Numeral.read_eq_ok_iff`, up to a bound the reader accepts what the grammar does;
`Console.parsed_iff_marked`, so the two readers of the command line accept one grammar, each up to its own bound, and
name the text that they refuse.
-/

namespace SectorCard

/-! ## Digits -/

namespace Hex

/-- A character is a digit if it is written for its value, in either case. -/
theorem eq_digit_of_digitValue? {c : Char} {n : Nat} (h : digitValue? c = some n) :
    n < 16 ∧ (c = lowerDigit n ∨ c = upperDigit n) := by
  have hle : ∀ {a b : Char}, a ≤ b ↔ a.toNat ≤ b.toNat := UInt32.le_iff_toNat_le
  have hself : c = Char.ofNat c.toNat := (Char.ofNat_toNat c).symm
  -- Each range of digits is as long as its values, so the value gives the character back.
  simp only [digitValue?, hle, Char.reduceToNat] at h
  split at h
  · have hn := Option.some.inj h
    have hcode : '0'.toNat + n = c.toNat := by simp only [Char.reduceToNat]; omega
    refine ⟨by omega, .inl ?_⟩
    rw [lowerDigit, if_pos (by omega), hcode]
    exact hself
  · split at h
    · have hn := Option.some.inj h
      have hcode : 'a'.toNat + (n - 10) = c.toNat := by simp only [Char.reduceToNat]; omega
      refine ⟨by omega, .inl ?_⟩
      rw [lowerDigit, if_neg (by omega), hcode]
      exact hself
    · split at h
      · have hn := Option.some.inj h
        have hcode : 'A'.toNat + (n - 10) = c.toNat := by simp only [Char.reduceToNat]; omega
        refine ⟨by omega, .inr ?_⟩
        rw [upperDigit, if_neg (by omega), hcode]
        exact hself
      · cases h

end Hex

namespace Numeral

/-- A character is a digit of a radix, in either case, with a value. -/
def IsDigit (radix : Nat) (c : Char) (value : Nat) : Prop :=
  value < radix ∧ (c = Hex.lowerDigit value ∨ c = Hex.upperDigit value)

variable {radix bound n : Nat} {chars : List Char}

theorem digit?_eq_some_iff (hradix : radix ≤ 16) {c : Char} {value : Nat} :
    digit? radix c = some value ↔ IsDigit radix c value := by
  rw [digit?, Option.filter_eq_some_iff, decide_eq_true_iff]
  constructor
  · rintro ⟨hc, hvalue⟩
    exact ⟨hvalue, (Hex.eq_digit_of_digitValue? hc).2⟩
  · rintro ⟨hvalue, rfl | rfl⟩
    · exact ⟨Hex.digitValue?_lowerDigit (Nat.lt_of_lt_of_le hvalue hradix), hvalue⟩
    · exact ⟨Hex.digitValue?_upperDigit (Nat.lt_of_lt_of_le hvalue hradix), hvalue⟩

/-! ## The grammar -/

/-- One or more digits, the most significant first, and the number that they stand for. -/
def Digits (radix : Nat) (chars : List Char) (n : Nat) : Prop :=
  chars ≠ [] ∧ ∃ values, List.Forall₂ (IsDigit radix) chars values ∧ Nat.ofDigits radix values.reverse = n

/-- Digits, perhaps after a plus sign. -/
inductive Signed (radix : Nat) : List Char → Nat → Prop where
  | bare {chars : List Char} {n : Nat} (h : Digits radix chars n) : Signed radix chars n
  | plus {chars : List Char} {n : Nat} (h : Digits radix chars n) : Signed radix ('+' :: chars) n

/-- A decimal numeral, or a hexadecimal one after a marker. -/
inductive Marked : List Char → Nat → Prop where
  | decimal {chars : List Char} {n : Nat} (h : Signed 10 chars n) : Marked chars n
  | lowerMark {chars : List Char} {n : Nat} (h : Signed 16 chars n) : Marked ('0' :: 'x' :: chars) n
  | upperMark {chars : List Char} {n : Nat} (h : Signed 16 chars n) : Marked ('0' :: 'X' :: chars) n

/-- There is nothing but digits among digits. -/
theorem not_digits_of_mem (hradix : radix ≤ 16) {c : Char} (hc : Hex.digitValue? c = none) (hmem : c ∈ chars) :
    ¬ Digits radix chars n := by
  rintro ⟨-, values, hvalues, -⟩
  induction hvalues with
  | nil => cases hmem
  | cons hfirst _ ih =>
    rcases List.mem_cons.1 hmem with rfl | hmem
    · have hdigit := (digit?_eq_some_iff hradix).2 hfirst
      rw [digit?, hc] at hdigit
      cases hdigit
    · exact ih hmem

theorem signed_plus_iff (hradix : radix ≤ 16) : Signed radix ('+' :: chars) n ↔ Digits radix chars n := by
  constructor
  · intro h
    cases h with
    | bare h => exact absurd h (not_digits_of_mem hradix rfl List.mem_cons_self)
    | plus h => exact h
  · exact .plus

theorem signed_iff_digits (hplus : ∀ rest, chars ≠ '+' :: rest) : Signed radix chars n ↔ Digits radix chars n := by
  constructor
  · intro h
    cases h with
    | bare h => exact h
    | plus h => exact absurd rfl (hplus _)
  · exact .bare

/-- A marker does not belong to a decimal numeral. -/
theorem marked_marker_iff {mark : Char} (hmark : mark = 'x' ∨ mark = 'X') :
    Marked ('0' :: mark :: chars) n ↔ Signed 16 chars n := by
  constructor
  · intro h
    cases h with
    | decimal h =>
      cases h with
      | bare h =>
        have hnone : Hex.digitValue? mark = none := by rcases hmark with rfl | rfl <;> rfl
        exact absurd h (not_digits_of_mem (by decide) hnone (by simp))
    | lowerMark h => exact h
    | upperMark h => exact h
  · intro h
    rcases hmark with rfl | rfl
    · exact .lowerMark h
    · exact .upperMark h

theorem marked_iff_signed (hlower : ∀ rest, chars ≠ '0' :: 'x' :: rest) (hupper : ∀ rest, chars ≠ '0' :: 'X' :: rest) :
    Marked chars n ↔ Signed 10 chars n := by
  constructor
  · intro h
    cases h with
    | decimal h => exact h
    | lowerMark h => exact absurd rfl (hlower _)
    | upperMark h => exact absurd rfl (hupper _)
  · exact .decimal

/-! ## Reading -/

theorem readDigits_cons_eq_ok_iff (hradix : radix ≤ 16) {acc : Nat} {c : Char} {rest : List Char} :
    readDigits radix bound acc (c :: rest) = .ok n ↔
      ∃ value, IsDigit radix c value ∧ acc * radix + value ≤ bound ∧
        readDigits radix bound (acc * radix + value) rest = .ok n := by
  simp only [← digit?_eq_some_iff hradix]
  rw [readDigits]
  cases digit? radix c with
  | none => simp
  | some value =>
    by_cases hroom : acc * radix + value ≤ bound
    · simp [hroom]
    · simp [hroom]

/-- The value that was read before a digit counts as a digit in front of it. -/
theorem ofDigits_read (radix acc value : Nat) (values : List Nat) :
    Nat.ofDigits radix ((value :: values).reverse ++ [acc]) =
      Nat.ofDigits radix (values.reverse ++ [acc * radix + value]) := by
  rw [List.reverse_cons, List.append_assoc, List.singleton_append, Nat.ofDigits_append, Nat.ofDigits_append,
    Nat.ofDigits_cons, Nat.ofDigits_singleton, Nat.ofDigits_singleton, Nat.add_comm value, Nat.mul_comm radix acc]

/-- Digits that follow do not bring the value down. -/
theorem le_ofDigits (hpos : 0 < radix) (acc : Nat) (values : List Nat) :
    acc ≤ Nat.ofDigits radix (values ++ [acc]) := by
  have hweight : 0 < radix ^ values.length := Nat.pow_pos hpos
  calc
    acc ≤ radix ^ values.length * acc := Nat.le_mul_of_pos_left acc hweight
    _ ≤ Nat.ofDigits radix values + radix ^ values.length * acc := Nat.le_add_left _ _
    _ = Nat.ofDigits radix (values ++ [acc]) := by rw [Nat.ofDigits_append, Nat.ofDigits_singleton]

/-- With what was read before, all characters are digits of a number that is not above the bound. -/
theorem readDigits_eq_ok_iff (hpos : 0 < radix) (hradix : radix ≤ 16) {acc : Nat} (hacc : acc ≤ bound) :
    readDigits radix bound acc chars = .ok n ↔
      n ≤ bound ∧ ∃ values, List.Forall₂ (IsDigit radix) chars values ∧
        Nat.ofDigits radix (values.reverse ++ [acc]) = n := by
  -- What was read before stands behind the reversed digits, as one digit of the highest place.
  induction chars generalizing acc with
  | nil =>
    rw [readDigits, Except.ok.injEq]
    constructor
    · rintro rfl
      exact ⟨hacc, [], .nil, Nat.ofDigits_singleton⟩
    · rintro ⟨-, _, hdigits, hn⟩
      cases hdigits
      exact Nat.ofDigits_singleton.symm.trans hn
  | cons c rest ih =>
    rw [readDigits_cons_eq_ok_iff hradix]
    constructor
    · rintro ⟨value, hdigit, hroom, hrest⟩
      rcases (ih hroom).1 hrest with ⟨hn, values, hvalues, hvalue⟩
      exact ⟨hn, value :: values, .cons hdigit hvalues, (ofDigits_read ..).trans hvalue⟩
    · rintro ⟨hn, _, hdigits, hvalue⟩
      cases hdigits with
      | @cons _ value _ values hdigit hvalues =>
        rw [ofDigits_read] at hvalue
        -- The bound is checked after each digit, but it is the whole number that counts.
        have hroom : acc * radix + value ≤ bound := (le_ofDigits hpos _ _).trans (hvalue.trans_le hn)
        exact ⟨value, hdigit, hroom, (ih hroom).2 ⟨hn, values, hvalues, hvalue⟩⟩

theorem readDigits_eq_ok_iff_digits (hpos : 0 < radix) (hradix : radix ≤ 16) (hne : chars ≠ []) :
    readDigits radix bound 0 chars = .ok n ↔ Digits radix chars n ∧ n ≤ bound := by
  rw [readDigits_eq_ok_iff hpos hradix (Nat.zero_le _), Digits, and_comm]
  simp only [Nat.ofDigits_append_zero, ne_eq, hne, not_false_eq_true, true_and]

theorem readChars_eq_ok_iff (hpos : 0 < radix) (hradix : radix ≤ 16) :
    readChars radix bound chars = .ok n ↔ Signed radix chars n ∧ n ≤ bound := by
  unfold readChars
  split
  · rw [signed_iff_digits (by simp), Digits]
    simp
  · rw [signed_plus_iff hradix, Digits]
    simp
  · rename_i rest hne
    rw [signed_plus_iff hradix]
    exact readDigits_eq_ok_iff_digits hpos hradix hne
  · rename_i hne _ hplus
    rw [signed_iff_digits hplus]
    exact readDigits_eq_ok_iff_digits hpos hradix hne

theorem readMarkedChars_eq_ok_iff : readMarkedChars bound chars = .ok n ↔ Marked chars n ∧ n ≤ bound := by
  unfold readMarkedChars
  split
  · rw [marked_marker_iff (.inl rfl)]
    exact readChars_eq_ok_iff (by decide) (by decide)
  · rw [marked_marker_iff (.inr rfl)]
    exact readChars_eq_ok_iff (by decide) (by decide)
  · rename_i hlower hupper
    rw [marked_iff_signed hlower hupper]
    exact readChars_eq_ok_iff (by decide) (by decide)

/-- The reader accepts the numerals of the grammar whose values are not above its bound. -/
theorem read_eq_ok_iff {text : String} : read bound text = .ok n ↔ Marked text.toList n ∧ n ≤ bound :=
  readMarkedChars_eq_ok_iff

end Numeral

/-! ## Numbers on the command line -/

namespace Console

variable {noun text : String} {bound n : Nat}

theorem parseNumber_eq_ok_iff :
    parseNumber noun bound text = .ok n ↔ Numeral.Marked text.toList n ∧ n ≤ bound := by
  rw [← Numeral.read_eq_ok_iff, parseNumber]
  cases Numeral.read bound text with
  | ok m => simp [Except.mapError]
  | error fault => simp [Except.mapError]

/-- What is refused is no numeral, or one whose value is above the bound, and the error names it. -/
theorem parseNumber_eq_error_iff :
    (∃ fault : Numeral.Fault, parseNumber noun bound text =
        .error ("invalid " ++ noun ++ " '" ++ text ++ "': " ++ fault.message)) ↔
      ¬ ∃ n, Numeral.Marked text.toList n ∧ n ≤ bound := by
  simp only [← Numeral.read_eq_ok_iff, parseNumber]
  cases Numeral.read bound text with
  | ok m => simp [Except.mapError]
  | error fault => simp [Except.mapError]

section Width

variable {α : Type} {ofNat : Nat → α} {toNat : α → Nat} {parsed : Except String Nat}

/-- Cutting numbers to a width that has room for them does not change them. -/
theorem map_toNat_eq (hexact : ∀ n, parsed = .ok n → toNat (ofNat n) = n) :
    (parsed.map ofNat).map toNat = parsed := by
  cases parsed with
  | ok n => exact congrArg Except.ok (hexact n rfl)
  | error message => rfl

theorem map_eq_error_iff {message : String} : parsed.map ofNat = .error message ↔ parsed = .error message := by
  cases parsed with
  | ok n => simp [Except.map]
  | error other => simp [Except.map]

end Width

theorem parseByte_toNat (text : String) : (parseByte text).map UInt8.toNat = parseNumber "byte" 255 text := by
  refine map_toNat_eq fun n h => ?_
  have hn := (parseNumber_eq_ok_iff.1 h).2
  exact (UInt8.toNat_ofNat' ..).trans (Nat.mod_eq_of_lt (by omega))

theorem parseBlockNumber_toNat (text : String) :
    (parseBlockNumber text).map UInt16.toNat = parseNumber "block" 65535 text := by
  refine map_toNat_eq fun n h => ?_
  have hn := (parseNumber_eq_ok_iff.1 h).2
  exact (UInt16.toNat_ofNat' ..).trans (Nat.mod_eq_of_lt (by omega))

/-- A text is a block number exactly if it is a numeral of at most 65535, and a byte exactly if it is a block number of
at most 255.  Any other text is refused with an error that names it. -/
theorem parsed_iff_marked (text : String) :
    (∀ n, (parseBlockNumber text).map UInt16.toNat = .ok n ↔ Numeral.Marked text.toList n ∧ n ≤ 65535) ∧
      (∀ n, (parseByte text).map UInt8.toNat = .ok n ↔
        (parseBlockNumber text).map UInt16.toNat = .ok n ∧ n ≤ 255) ∧
      ((∃ fault : Numeral.Fault, parseBlockNumber text = .error ("invalid block '" ++ text ++ "': " ++ fault.message)) ↔
        ¬ ∃ n, Numeral.Marked text.toList n ∧ n ≤ 65535) ∧
      ((∃ fault : Numeral.Fault, parseByte text = .error ("invalid byte '" ++ text ++ "': " ++ fault.message)) ↔
        ¬ ∃ n, Numeral.Marked text.toList n ∧ n ≤ 255) := by
  have hblock : "invalid " ++ "block" ++ " '" = "invalid block '" := rfl
  have hbyte : "invalid " ++ "byte" ++ " '" = "invalid byte '" := rfl
  refine ⟨fun n => ?_, fun n => ?_, ?_, ?_⟩
  · rw [parseBlockNumber_toNat, parseNumber_eq_ok_iff]
  · rw [parseBlockNumber_toNat, parseByte_toNat, parseNumber_eq_ok_iff, parseNumber_eq_ok_iff]
    constructor
    · rintro ⟨hmarked, hn⟩
      exact ⟨⟨hmarked, by omega⟩, hn⟩
    · rintro ⟨⟨hmarked, -⟩, hn⟩
      exact ⟨hmarked, hn⟩
  · rw [← hblock]
    exact (exists_congr fun fault => map_eq_error_iff).trans parseNumber_eq_error_iff
  · rw [← hbyte]
    exact (exists_congr fun fault => map_eq_error_iff).trans parseNumber_eq_error_iff

/-- A plus sign may stand behind the marker, but not in front of it. -/
example : parseBlockNumber "0x+00010" = .ok 16 ∧
    parseBlockNumber "+0x10" = .error "invalid block '+0x10': invalid digit found in string" := by
  decide

end Console
end SectorCard
