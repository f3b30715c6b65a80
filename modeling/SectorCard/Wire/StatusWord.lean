/-!
# Status words

Every reply ends in two bytes that say how the command went.  This module gives the two bytes a type and
sorts them by what they mean.

Main statements: `StatusWord.isSuccess_iff` and `StatusWord.hasMoreData_iff` name the pairs of bytes that
count as success and as an announcement of further data.
-/

namespace SectorCard

/-- The two bytes that end a reply. -/
structure StatusWord where
  sw1 : UInt8
  sw2 : UInt8
  deriving DecidableEq, Repr

namespace StatusWord

/-- What a status word says.  Success and further fragments can also be told in the card's native
framing; a reply that was cut short tells how many bytes are left. -/
inductive Meaning where
  | success
  | nativeSuccess
  | moreDataAvailable
  | additionalFrame
  | bytesRemaining (length : UInt8)
  | authenticationError
  | wrongLength
  | securityStatus
  | authBlocked
  | commandNotAllowed
  | functionNotSupported
  | notFound
  | incorrectParam
  | notSupported
  | classNotSupported
  | commandAborted
  | other
  deriving DecidableEq, Repr

def meaning (w : StatusWord) : Meaning :=
  match w.sw1.toNat, w.sw2.toNat with
  | 0x90, 0x00 => .success
  | 0x91, 0x00 => .nativeSuccess
  | 0x90, 0xaf => .moreDataAvailable
  | 0x91, 0xaf => .additionalFrame
  | 0x61, _ => .bytesRemaining w.sw2
  | 0x63, 0x00 => .authenticationError
  | 0x67, 0x00 => .wrongLength
  | 0x69, 0x82 => .securityStatus
  | 0x69, 0x83 => .authBlocked
  | 0x69, 0x86 => .commandNotAllowed
  | 0x6a, 0x81 => .functionNotSupported
  | 0x6a, 0x82 => .notFound
  | 0x6b, 0x00 => .incorrectParam
  | 0x6d, 0x00 => .notSupported
  | 0x6e, 0x00 => .classNotSupported
  | 0x6f, 0x00 => .commandAborted
  | _, _ => .other

def number (w : StatusWord) : Nat := w.sw1.toNat * 256 + w.sw2.toNat

def ofNumber (n : UInt16) : StatusWord :=
  ⟨UInt8.ofNat (n.toNat / 256), UInt8.ofNat (n.toNat % 256)⟩

theorem number_ofNumber (n : UInt16) : (ofNumber n).number = n.toNat := by
  have := n.toNat_lt
  simp only [number, ofNumber, UInt8.toNat_ofNat']
  omega

def isSuccess (w : StatusWord) : Bool :=
  match w.meaning with
  | .success | .nativeSuccess => true
  | _ => false

/-- Whether the reply announces another fragment. -/
def hasMoreData (w : StatusWord) : Bool :=
  match w.meaning with
  | .moreDataAvailable | .additionalFrame => true
  | _ => false

/-- The name under which a meaning is reported; one that is not known shows its number. -/
def name (w : StatusWord) : String :=
  match w.meaning with
  | .success => "Success"
  | .nativeSuccess => "NativeSuccess"
  | .moreDataAvailable => "MoreDataAvailable"
  | .additionalFrame => "AdditionalFrame"
  | .bytesRemaining length => "BytesRemaining \x7b len: " ++ toString length.toNat ++ " \x7d"
  | .authenticationError => "AuthenticationError"
  | .wrongLength => "WrongLengthError"
  | .securityStatus => "SecurityStatusError"
  | .authBlocked => "AuthBlockedError"
  | .commandNotAllowed => "CommandNotAllowedError"
  | .functionNotSupported => "FunctionNotSupportedError"
  | .notFound => "NotFoundError"
  | .incorrectParam => "IncorrectParamError"
  | .notSupported => "NotSupportedError"
  | .classNotSupported => "ClassNotSupportedError"
  | .commandAborted => "CommandAbortedError"
  | .other => "Other(" ++ toString w.number ++ ")"

/-! ## The bytes behind the meanings -/

theorem eq_ofNat {w : StatusWord} {m n : Nat} (h1 : w.sw1.toNat = m) (h2 : w.sw2.toNat = n) :
    w = ⟨UInt8.ofNat m, UInt8.ofNat n⟩ := by
  subst h1 h2
  simp

theorem isSuccess_iff {w : StatusWord} : w.isSuccess ↔ w = ⟨0x90, 0x00⟩ ∨ w = ⟨0x91, 0x00⟩ := by
  constructor
  · intro h
    unfold isSuccess meaning at h
    split at h
    · rename_i hm
      split at hm <;> first | exact .inl (eq_ofNat ‹_› ‹_›) | cases hm
    · rename_i hm
      split at hm <;> first | exact .inr (eq_ofNat ‹_› ‹_›) | cases hm
    · cases h
  · rintro (rfl | rfl) <;> rfl

theorem hasMoreData_iff {w : StatusWord} : w.hasMoreData ↔ w = ⟨0x90, 0xaf⟩ ∨ w = ⟨0x91, 0xaf⟩ := by
  constructor
  · intro h
    unfold hasMoreData meaning at h
    split at h
    · rename_i hm
      split at hm <;> first | exact .inl (eq_ofNat ‹_› ‹_›) | cases hm
    · rename_i hm
      split at hm <;> first | exact .inr (eq_ofNat ‹_› ‹_›) | cases hm
    · cases h
  · rintro (rfl | rfl) <;> rfl

/-- One status word only says that authentication is required or has failed. -/
theorem meaning_eq_authenticationError_iff {w : StatusWord} : w.meaning = .authenticationError ↔ w = ⟨0x63, 0x00⟩ := by
  constructor
  · intro h
    unfold meaning at h
    split at h <;> first | exact eq_ofNat ‹_› ‹_› | cases h
  · rintro rfl
    rfl

end StatusWord
end SectorCard
