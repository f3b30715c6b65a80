import SectorCard.CardError
import SectorCard.Bytes

/-!
# Replies

A reply is data followed by a status word.  Fewer than two bytes are no reply.

Main statements: `Reply.parse_encode` and `Reply.encode_of_parse`, reading accepts exactly what writing
produces.
-/

namespace SectorCard

structure Reply where
  data : Bytes
  status : StatusWord
  deriving DecidableEq, Repr

namespace Reply

def encode (r : Reply) : Bytes := r.data ++ [r.status.sw1, r.status.sw2]

/-- Splits the status word from the data. -/
def parse (bytes : Bytes) : Except CardError Reply :=
  match bytes.reverse with
  | sw2 :: sw1 :: rest => .ok ⟨rest.reverse, ⟨sw1, sw2⟩⟩
  | _ => .error (.malformedReply bytes.length)

@[simp] theorem parse_encode (r : Reply) : parse r.encode = .ok r := by
  simp [parse, encode]

theorem encode_of_parse {bytes : Bytes} {r : Reply} (h : parse bytes = .ok r) : r.encode = bytes := by
  unfold parse at h
  split at h
  · rename_i sw2 sw1 rest hrev
    cases h
    have : bytes = (sw2 :: sw1 :: rest).reverse := by rw [← hrev, List.reverse_reverse]
    simp [encode, this]
  · cases h

/-- Bytes are refused exactly if they are fewer than two, and the refusal tells how many. -/
theorem parse_eq_error_iff {bytes : Bytes} {e : CardError} :
    parse bytes = .error e ↔ bytes.length < 2 ∧ e = .malformedReply bytes.length := by
  unfold parse
  split
  · rename_i sw2 sw1 rest hrev
    have : bytes.length = rest.length + 2 := by
      rw [← List.length_reverse, hrev]; rfl
    constructor
    · intro h; cases h
    · rintro ⟨h, -⟩; omega
  · rename_i hshort
    have : bytes.length < 2 := by
      rw [← List.length_reverse]
      match hrev : bytes.reverse with
      | [] => simp
      | [_] => simp
      | sw2 :: sw1 :: rest => exact absurd hrev (hshort sw2 sw1 rest)
    simp [this, eq_comm]

end Reply
end SectorCard
