import SectorCard.Text.Utf8
import SectorCard.Text.Hex
import SectorCard.Text.Shown

/-!
# Quoted text

A name is shown between double quotes.  ASCII controls and bytes that are no text are written as two
hexadecimal digits behind `\x`, except that tab, newline and carriage return have letters of their own; quotes
and backslashes stand behind a backslash; characters that cannot be shown are written by their number.
-/

namespace SectorCard.Quoted

def hexDigits (n : Nat) : List Char := Nat.toDigits 16 n

def hexByte (b : UInt8) : List Char := '\\' :: 'x' :: Hex.lowerPair b

/-- An ASCII character within quotes. -/
def ascii (c : Char) : List Char :=
  if c = '\t' then ['\\', 't']
  else if c = '\n' then ['\\', 'n']
  else if c = '\r' then ['\\', 'r']
  else if c = '\'' then ['\\', '\'']
  else if c = '"' then ['\\', '"']
  else if c = '\\' then ['\\', '\\']
  else if 0x20 ≤ c.toNat ∧ c.toNat < 0x7f then [c]
  else if c.toNat = 0 then ['\\', '0']
  else hexByte (UInt8.ofNat c.toNat)

def char (c : Char) : List Char :=
  if c.toNat < 0x80 then ascii c
  else if Shown.asIs c then [c]
  else ['\\', 'u', '\x7b'] ++ hexDigits c.toNat ++ ['\x7d']

def piece : Utf8.Piece → List Char
  | .char c => char c
  | .broken bytes => bytes.flatMap hexByte

def quote (data : Bytes) : String :=
  String.ofList ('"' :: (Utf8.pieces data).flatMap piece ++ ['"'])

end SectorCard.Quoted
