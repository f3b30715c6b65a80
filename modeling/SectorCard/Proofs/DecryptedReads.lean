import SectorCard.Proofs.ScannedPages
import SectorCard.Simulation.Ciphers

/-!
# The length of decrypted data

A plain read of a certain length gives exactly as many bytes, or fails (`Coupler.length_of_readData`).  A decrypted read
encrypts as many zeros as there is data wanted, reads as many bytes of ciphertext as come of them, decrypts what it has
read and drops what is too much.  If the cipher gives too little, nothing is wrong with the read, and too little is what
it gives.

So the length of decrypted data rests on the cipher alone.  The read gives all that was asked for, whatever the
transport does, if and only if the cipher never decrypts as many bytes as it encrypts the zeros to into less than there
were zeros (`Coupler.readDecrypted_exact`).
-/

namespace SectorCard

open Procedure

namespace CipherMode

/-- What becomes of the ciphertext if a certain length of data is wanted. -/
def opened (mode : CipherMode) (length : Nat) : Except Failure Bytes → Except Failure Bytes
  | .ok ciphertext => (Failure.lift (mode.decrypt ciphertext)).map (·.take length)
  | .error e => .error e

/-- Whatever stands in the place of the ciphertext of so much data, it is not decrypted to less. -/
def Restores (mode : CipherMode) (length : Nat) : Prop :=
  ∀ sample ciphertext plaintext, mode.encrypt (List.replicate length 0) = .ok sample →
    ciphertext.length = sample.length → mode.decrypt ciphertext = .ok plaintext → length ≤ plaintext.length

theorem opened_eq_ok_iff {mode : CipherMode} {length : Nat} {read : Except Failure Bytes} {out : Bytes} :
    mode.opened length read = .ok out ↔
      ∃ ciphertext plaintext, read = .ok ciphertext ∧ mode.decrypt ciphertext = .ok plaintext ∧
        out = plaintext.take length := by
  cases read with
  | error e => simp [opened]
  | ok ciphertext =>
    cases hdecrypt : mode.decrypt ciphertext with
    | error e => simp [opened, hdecrypt, Failure.lift, Except.map]
    | ok plaintext => simp [opened, hdecrypt, Failure.lift, Except.map, eq_comm]

end CipherMode

namespace Coupler

variable {ω : Type} {t : Transport ω} {c : Situation Link Coupler ω} {start : UInt8}

/-! ## What is read -/

/-- A plain read gives as many bytes as were asked for, or fails. -/
theorem length_of_readData {length : Nat} {data : Bytes}
    (h : (exec t.responder (readData start length) c).1 = .ok data) : data.length = length := by
  rcases exec_scan t (addressesFrom start) c with ⟨pages, stop, d, -, hscan⟩
  have hread : (exec t.responder (readData start length) c).1 = frontOf pages.flatten stop length :=
    (hscan.readData length).2
  rw [h, frontOf] at hread
  split at hread
  · rename_i hlong
    cases hread
    exact List.length_take_of_le hlong
  · cases hread

/-- A decrypted read is a plain read of the ciphertext, unless there is no telling how much ciphertext there is. -/
theorem exec_readDecrypted (t : Transport ω) (c : Situation Link Coupler ω) (start : UInt8) (length : Nat)
    (mode : CipherMode) :
    exec t.responder (readDecrypted start length mode) c =
      match mode.encrypt (List.replicate length 0) with
      | .error e => (.error (.error e), c)
      | .ok sample =>
        let read := exec t.responder (readData start sample.length) c
        (mode.opened length read.1, read.2) := by
  rw [readDecrypted, exec_bind, exec_require]
  cases mode.encrypt (List.replicate length 0) with
  | error e => rfl
  | ok sample =>
    dsimp only [Failure.lift]
    rw [exec_bind]
    rcases exec t.responder (readData start sample.length) c with ⟨_ | ciphertext, d⟩
    · rfl
    · dsimp only [CipherMode.opened]
      rw [exec_bind, exec_require]
      cases mode.decrypt ciphertext <;> simp [Failure.lift, Except.map]

/-! ## Ciphertext of any kind -/

/-- A connected card that acknowledges every command with the same data. -/
def repeating (data : Bytes) : Transport Unit where
  isConnected _ := true
  transmit _ _ := (Tag.accepted data, ())

theorem ensures_readWholePage_repeating (data : Bytes) (address : UInt8) :
    Ensures (repeating data).responder (readWholePage address) ⟨.fresh, (), []⟩ fun x _ => x = .ok data := by
  have hdemand : ∀ command refusal, (repeating data).demand command refusal () = .ok data :=
    fun _ _ => Transport.demand_eq_ok_iff.2 ⟨rfl, Tag.acknowledged?_accepted data⟩
  refine ensures_get_bind ?_
  rw [readPage_eq]
  refine ensures_access_of_idle rfl (ensures_transfer_of_demand (fun page h => ?_) fun e _ h => ?_)
  · rw [hdemand] at h
    exact congrArg Except.ok (Except.ok.inj h).symm
  · rw [hdemand] at h
    cases h

/-- Bytes of any number and any kind can be what is read, in one page or none. -/
theorem exec_readData_repeating (data : Bytes) (start : UInt8) :
    (exec (repeating data).responder (readData start data.length) ⟨.fresh, (), []⟩).1 = .ok data := by
  -- There is at least one page to read, at the address to start from.
  have haddresses : addressesFrom start ≠ [] := by
    rw [← List.length_pos_iff, length_addressesFrom]
    exact Nat.sub_pos_of_lt start.toNat_lt
  rcases List.exists_cons_of_ne_nil haddresses with ⟨address, rest, hfirst⟩
  have hgather : Ensures (repeating data).responder (gather (address :: rest) data.length) ⟨.fresh, (), []⟩
      fun x _ => x = .ok data := by
    cases data with
    | nil => exact ensures_pure rfl
    | cons byte data =>
      refine (ensures_readWholePage_repeating _ address).bind ?_ fun _ _ h => nomatch h
      rintro page d hread
      cases hread
      -- The page brings all that is wanted.
      rw [if_neg (by simp), ← List.length_cons, Nat.sub_self]
      have hnone : gather rest 0 = pure [] := by
        cases rest <;> rfl
      rw [hnone, pure_bind, List.append_nil]
      exact ensures_pure rfl
  show Ensures _ _ _ fun x _ => x = .ok data
  rw [readData, hfirst]
  refine hgather.bind ?_ fun _ _ h => nomatch h
  rintro _ _ ⟨⟩
  rw [List.take_length]
  exact ensures_pure rfl

/-! ## What is decrypted -/

/-- A decrypted read has given some bytes, because ciphertext as long as that of as many zeros was read and decrypted.
They are as many as were asked for if and only if the ciphertext was decrypted to no less. -/
def DecryptedTo (t : Transport ω) (c : Situation Link Coupler ω) (start : UInt8) (length : Nat) (mode : CipherMode)
    (out : Bytes) : Prop :=
  ∃ sample ciphertext plaintext, mode.encrypt (List.replicate length 0) = .ok sample ∧
    (exec t.responder (readData start sample.length) c).1 = .ok ciphertext ∧ ciphertext.length = sample.length ∧
    mode.decrypt ciphertext = .ok plaintext ∧ out = plaintext.take length ∧
    (out.length = length ↔ length ≤ plaintext.length)

theorem length_take_eq_iff (plaintext : Bytes) (length : Nat) :
    (plaintext.take length).length = length ↔ length ≤ plaintext.length := by
  rw [List.length_take]
  omega

theorem decryptedTo_of_exec {length : Nat} {mode : CipherMode} {out : Bytes}
    (hout : (exec t.responder (readDecrypted start length mode) c).1 = .ok out) :
    DecryptedTo t c start length mode out := by
  rw [exec_readDecrypted] at hout
  cases hsample : mode.encrypt (List.replicate length 0) with
  | error e =>
    rw [hsample] at hout
    cases hout
  | ok sample =>
    rw [hsample] at hout
    rcases CipherMode.opened_eq_ok_iff.1 hout with ⟨ciphertext, plaintext, hciphertext, hdecrypt, rfl⟩
    exact ⟨sample, ciphertext, plaintext, hsample, hciphertext, length_of_readData hciphertext, hdecrypt, rfl,
      length_take_eq_iff plaintext length⟩

/-- For every mode and length: a decrypted read fails without a command if as many zeros cannot be encrypted.  Otherwise
it sends the commands of the plain read of as many bytes as come of the zeros, leaves what that leaves, fails as it
fails or as decrypting fails, and gives the front of what is decrypted.

All decrypted reads of the length, over every transport, from every situation and every page on, give as much as was
asked for or fail if and only if no bytes in the place of the ciphertext are decrypted to less. -/
theorem readDecrypted_exact (mode : CipherMode) (length : Nat) :
    (∀ {ω : Type} (t : Transport ω) (c : Situation Link Coupler ω) (start : UInt8),
      exec t.responder (readDecrypted start length mode) c =
          (match mode.encrypt (List.replicate length 0) with
          | .error e => (.error (.error e), c)
          | .ok sample =>
            let read := exec t.responder (readData start sample.length) c
            (mode.opened length read.1, read.2)) ∧
        ∀ out, (exec t.responder (readDecrypted start length mode) c).1 = .ok out →
          DecryptedTo t c start length mode out) ∧
      ((∀ {ω : Type} (t : Transport ω) (c : Situation Link Coupler ω) (start : UInt8) (out : Bytes),
        (exec t.responder (readDecrypted start length mode) c).1 = .ok out → out.length = length) ↔
          mode.Restores length) := by
  refine ⟨fun t c start => ⟨exec_readDecrypted t c start length mode, fun _ => decryptedTo_of_exec⟩, ?_, ?_⟩
  · intro hall sample ciphertext plaintext hsample hlength hdecrypt
    -- The ciphertext may be what a card shows.
    have hread : (exec (repeating ciphertext).responder (readData 0 sample.length) ⟨.fresh, (), []⟩).1 =
        .ok ciphertext := by
      rw [← hlength]
      exact exec_readData_repeating ciphertext 0
    have hout : (exec (repeating ciphertext).responder (readDecrypted 0 length mode) ⟨.fresh, (), []⟩).1 =
        .ok (plaintext.take length) := by
      rw [exec_readDecrypted, hsample]
      exact CipherMode.opened_eq_ok_iff.2 ⟨ciphertext, plaintext, hread, hdecrypt, rfl⟩
    exact (length_take_eq_iff plaintext length).1 (hall (repeating ciphertext) ⟨.fresh, (), []⟩ 0 _ hout)
  · intro hrestores ω t c start out hout
    rcases decryptedTo_of_exec hout with ⟨sample, ciphertext, plaintext, hsample, -, hlength, hdecrypt, -, hlong⟩
    exact hlong.2 (hrestores sample ciphertext plaintext hsample hlength hdecrypt)

/-- A cipher that loses the last byte when it decrypts: a read of four bytes gives three. -/
example : (exec (repeating [1, 2, 3, 4]).responder
    (readDecrypted 8 4 (.plain (Simulation.CipherKind.short.cipher 0))) ⟨.fresh, (), []⟩).1 = .ok [1, 2, 3] := by
  decide

end Coupler
end SectorCard
