import SectorCard.Dialogue.Refusal
import SectorCard.Wire.Reply

/-!
# The link to a card

A link can be asked whether a card is connected, and can carry a command to the card and its reply back.
A transport is whatever stands behind a link; it may answer in any way at all.

A long reply comes in fragments: each fragment but the last announces that there is more, and the next one is
fetched with a command of its own.  `Link.sendChained` collects the fragments.
-/

namespace SectorCard

namespace Link

/-- What can be asked of a link. -/
inductive Request where
  | isConnected
  | transmit (command : Bytes)
  deriving DecidableEq, Repr

abbrev Answer : Request → Type
  | .isConnected => Bool
  | .transmit _ => Except CardError Bytes

end Link

abbrev Link : Signature := ⟨Link.Request, Link.Answer⟩

/-- What stands behind a link.  Asking whether a card is connected changes nothing. -/
structure Transport (ω : Type) where
  isConnected : ω → Bool
  transmit : Bytes → ω → Except CardError Bytes × ω

def Transport.responder {ω : Type} (t : Transport ω) : Responder Link ω where
  answer
    | .isConnected, w => (t.isConnected w, w)
    | .transmit command, w => t.transmit command w

namespace Link

/-! ## Single exchanges -/

variable {σ : Type}

/-- Sends a command and splits the reply, if a card is connected. -/
def exchange (command : Bytes) : Procedure Link σ Failure Reply := do
  let connected : Bool ← Procedure.ask (S := Link) .isConnected
  if connected then
    let reply : Except CardError Bytes ← Procedure.ask (S := Link) (.transmit command)
    let bytes ← Procedure.require reply
    Procedure.require (Reply.parse bytes)
  else throw (.error .notConnected)

/-! ## Replies in fragments -/

/-- The command that fetches the next fragment. -/
def additionalFrame : Bytes := [0x90, 0xaf, 0x00, 0x00, 0x00]

/-- The greatest number of fragments of one reply. -/
def maxFragments : Nat := 64

/-- Goes on with the bytes of a reply, unless the exchange has failed. -/
def onReply (next : Bytes → Dialogue Link (Except CardError Bytes)) :
    Except CardError Bytes → Dialogue Link (Except CardError Bytes)
  | .error e => .done (.error e)
  | .ok bytes => next bytes

/-- Goes on from a fragment with `more` further fragments allowed, on top of the data collected so far. -/
def collect : (follow : Bool) → (more : Nat) → (collected fragment : Bytes) →
    Dialogue Link (Except CardError Bytes)
  | follow, more, collected, fragment =>
    match Reply.parse fragment with
    | .error e => .done (.error e)
    | .ok reply =>
      let collected := collected ++ reply.data
      if reply.status.hasMoreData then
        if follow then
          match more with
          | 0 => .done (.error (.malformedReply collected.length))
          | more + 1 => .ask (.transmit additionalFrame) (onReply fun next => collect follow more collected next)
        else .done (.ok collected)
      else if reply.status.isSuccess then .done (.ok collected)
      else .done (.error (.unexpectedStatus reply.status))

/-- Sends a command and collects the data of its reply, following announced fragments if told to. -/
def sendChained (command : Bytes) (follow : Bool) : Dialogue Link (Except CardError Bytes) :=
  .ask .isConnected fun connected =>
    if connected then
      .ask (.transmit command) (onReply fun fragment => collect follow (maxFragments - 1) [] fragment)
    else .done (.error .notConnected)

end Link
end SectorCard
