import SectorCard.Coupler.Page
import SectorCard.Cipher

/-!
# Access to runs of pages

Data that spans several pages is read and written page by page, from a start address up to the last address
255, in steps of the coupler's page length.

`readAll` reads as far as it can.  `readData` reads a given number of bytes or fails.  `writeData` refuses at
once what would run past the last address, and fills the last page with zeros.  The encrypted forms do the
same to ciphertext.
-/

namespace SectorCard.Coupler

def lastAddress : Nat := 255

def addressesFrom (start : UInt8) : List UInt8 :=
  (List.range (lastAddress + 1 - start.toNat)).map fun i => UInt8.ofNat (start.toNat + i)

def readWholePage (address : UInt8) : CouplerM Bytes := do
  let c ← get
  readPage address c.pageLength

/-! ## Reading -/

/-- Reads pages until one fails or is empty; what was read before stands. -/
def scan : List UInt8 → CouplerM Bytes
  | [] => pure []
  | address :: rest => do
    match ← Procedure.attempt (readWholePage address) with
    | .ok [] => pure []
    | .ok page => do
      let others ← scan rest
      pure (page ++ others)
    | .error (.error _) => pure []
    | .error (.defect d) => throw (.defect d)

def readAll (start : UInt8) : CouplerM Bytes := scan (addressesFrom start)

/-- Reads pages until `wanted` bytes have come; the last page may bring more. -/
def gather : List UInt8 → (wanted : Nat) → CouplerM Bytes
  | _, 0 => pure []
  | [], _ + 1 => throw (.error .size)
  | address :: rest, wanted + 1 => do
    let page ← readWholePage address
    if page.isEmpty then throw (.error .size)
    else do
      let others ← gather rest (wanted + 1 - page.length)
      pure (page ++ others)

/-- Reads exactly `length` bytes from `start` on. -/
def readData (start : UInt8) (length : Nat) : CouplerM Bytes := do
  let data ← gather (addressesFrom start) length
  pure (data.take length)

/-! ## Writing -/

/-- Writes pieces to the pages from the `i`-th after `start` on, each filled up to the page length. -/
def writePieces (start : UInt8) (size : Nat) : (i : Nat) → List Bytes → CouplerM Unit
  | _, [] => pure ()
  | i, piece :: rest => do
    let page ← Procedure.ofExcept (Checked.page size piece)
    let address ← Procedure.ofExcept (Checked.advance start i)
    writePage address page
    writePieces start size (i + 1) rest

/-- Writes data from `start` on, unless it would run past the last address. -/
def writeData (start : UInt8) (data : Bytes) : CouplerM Unit := do
  let c ← get
  let size := c.pageLength.toNat
  let pages := Bytes.pieces size data
  if start.toNat + pages.length ≤ lastAddress + 1 then writePieces start size 0 pages
  else throw (.error .size)

/-! ## Encrypted data -/

def writeEncrypted (start : UInt8) (data : Bytes) (mode : CipherMode) : CouplerM Unit := do
  let ciphertext ← Procedure.require (mode.encrypt data)
  writeData start ciphertext

/-- Reads ciphertext and decrypts it to at most `length` bytes.  How much ciphertext there is, is found out
by encrypting as many zeros. -/
def readDecrypted (start : UInt8) (length : Nat) (mode : CipherMode) : CouplerM Bytes := do
  let sample ← Procedure.require (mode.encrypt (List.replicate length 0))
  let ciphertext ← readData start sample.length
  let plaintext ← Procedure.require (mode.decrypt ciphertext)
  pure (plaintext.take length)

end SectorCard.Coupler
