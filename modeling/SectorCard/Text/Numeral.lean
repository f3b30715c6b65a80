import SectorCard.Text.Hex

/-!
# Unsigned numerals

A numeral is an optional plus sign and one or more digits of the radix.  It is read from left to right
against an upper bound, so that of a bad digit and a value that has grown too large the one met first is
reported.  Leading zeros are allowed in any number.

A numeral may also carry the marker `0x` or `0X`, which selects radix sixteen; without it the radix is ten.
-/

namespace SectorCard.Numeral

/-- Why a text is not a numeral within the bound.  A sign without digits counts as an invalid digit. -/
inductive Fault where
  | empty
  | invalidDigit
  | tooLarge
  deriving DecidableEq, Repr

def Fault.message : Fault → String
  | .empty => "cannot parse integer from empty string"
  | .invalidDigit => "invalid digit found in string"
  | .tooLarge => "number too large to fit in target type"

def digit? (radix : Nat) (c : Char) : Option Nat :=
  (Hex.digitValue? c).filter (· < radix)

/-- Reads digits on top of the value `acc` read so far. -/
def readDigits (radix bound : Nat) (acc : Nat) : List Char → Except Fault Nat
  | [] => .ok acc
  | c :: rest =>
    match digit? radix c with
    | none => .error .invalidDigit
    | some d =>
      if acc * radix + d ≤ bound then readDigits radix bound (acc * radix + d) rest
      else .error .tooLarge

/-- Reads an optional plus sign and at least one digit. -/
def readChars (radix bound : Nat) : List Char → Except Fault Nat
  | [] => .error .empty
  | ['+'] => .error .invalidDigit
  | '+' :: rest => readDigits radix bound 0 rest
  | chars => readDigits radix bound 0 chars

/-- Reads a numeral that is decimal, or hexadecimal after `0x` or `0X`. -/
def readMarkedChars (bound : Nat) : List Char → Except Fault Nat
  | '0' :: 'x' :: rest => readChars 16 bound rest
  | '0' :: 'X' :: rest => readChars 16 bound rest
  | chars => readChars 10 bound chars

def readDecimal (bound : Nat) (text : String) : Except Fault Nat :=
  readChars 10 bound text.toList

/-- Reads a decimal or marked hexadecimal numeral of at most `bound`. -/
def read (bound : Nat) (text : String) : Except Fault Nat :=
  readMarkedChars bound text.toList

end SectorCard.Numeral
